import DecoderExport.Objects.Value
import DecoderExport.Payload
import DecoderExport.Proofs.WideDecimal

/-!
# What the texts of scores write

A score is written in two places: in the JSON form of a value, where it takes the detour over 64 bits,
and in the text of a candidate. Both texts write a decimal that is rounded back to the score, and no
decimal with fewer digits is. They write the same number, unless the score lies halfway between two
decimals that are both as short as can be; then they part, each by its own rule for ties.
-/

namespace DecoderExport

open DecoderExport.Number (Binary Decimal Double Format Layout Single Style Tie double single)
open DecoderExport.Json (Denotes Literal Tree floatText)

namespace Number

/-- A decimal that is rounded to a pattern, of as few digits as any. -/
structure Decimal.IsShortest (f : Format) (pattern : Nat) (d : Decimal) : Prop where
  rounded : f.Nearest d.value pattern
  fewest : ∀ e : Decimal, f.Nearest e.value pattern → d.places ≤ e.places

/-- The decimal that is shown for a pattern under a rule for ties. -/
def Decimal.shown (tie : Tie) (f : Format) (pattern : Nat) : Decimal :=
  if pattern = 0 then ⟨0, 0⟩ else .shortest tie f pattern

theorem Decimal.shown_zero (tie : Tie) (f : Format) : shown tie f 0 = ⟨0, 0⟩ := if_pos rfl

theorem Decimal.value_zero (exponent : Int) : (⟨0, exponent⟩ : Decimal).value = 0 := by
  simp [value]

theorem Decimal.digits_ne_zero {f : Format} {pattern : Nat} {d : Decimal} (hp : pattern ≠ 0)
    (h : f.Nearest d.value pattern) : d.digits ≠ 0 := by
  intro hzero
  have hvalue : d.value = f.value 0 := by
    rw [value, hzero, Nat.cast_zero, zero_mul, f.value_zero]
  have := h.pattern_le (Nat.zero_le _) hvalue.le
  omega

/-- What is shown for a finite 32-bit number is rounded to it, and nothing shorter is. -/
theorem Decimal.shown_isShortest (tie : Tie) {pattern : Nat} (hf : pattern < single.infinity) :
    (shown tie single pattern).IsShortest single pattern := by
  by_cases hp : pattern = 0
  · subst hp
    rw [shown_zero]
    refine ⟨?_, fun e _ => ?_⟩
    · rw [value_zero, ← single.value_zero]
      exact Format.nearest_value (Nat.zero_le _)
    · calc places ⟨0, 0⟩ ≤ 0 + 1 := places_le (Nat.zero_le _)
        _ ≤ e.places := e.places_pos
  · rw [shown, if_neg hp]
    obtain ⟨hnearest, -, hfewest⟩ := shortest_single tie hp hf
    exact ⟨hnearest, hfewest⟩

/-- The two rules for ties show the same number, or the pattern lies halfway between what they
show. -/
theorem Decimal.shown_tie {pattern : Nat} (hf : pattern < single.infinity) :
    (shown .away single pattern).value = (shown .even single pattern).value ∨
      ∃ (n : Nat) (k : Int), n % 2 = 0 ∧ (shown .away single pattern).value = (n + 1) * 10 ^ k ∧
        (shown .even single pattern).value = n * 10 ^ k ∧
        single.value pattern = (n + 1 / 2) * 10 ^ k := by
  unfold shown
  split
  · exact .inl rfl
  · rename_i hp
    exact shortest_tie hp hf

end Number

namespace Json

/-! ### Texts in a layout -/

/-- A decimal is written by its text in every layout that marks whole numbers. -/
theorem render_writes (layout : Layout) (hmark : layout.markWhole = true)
    (hexponent : layout.exponentDigits ≤ 1) (negative : Bool) {d : Decimal} (hd : d.digits ≠ 0) :
    ∃ l : Literal, l.negative = negative ∧ layout.render d = l.unsigned ∧
      l.magnitude = d.value := by
  obtain ⟨l, hn, hu, hm, -⟩ := place_literal layout hmark negative hd
  obtain ⟨l', hn', hu', hm', -⟩ := scale_literal layout hexponent negative hd
  unfold Layout.render
  simp only
  split
  · exact ⟨l, hn, hu, hm⟩
  · split
    · exact ⟨l, hn, hu, hm⟩
    · exact ⟨l', hn', hu', hm'⟩

/-- The text of a finite number writes the decimal that is shown for it. -/
theorem floatText_denotes {f : Format} (style : Style) (hmark : style.layout.markWhole = true)
    (hexponent : style.layout.exponentDigits ≤ 1) {x : Binary f} (hx : x.isFinite = true)
    (hshown : x.pattern ≠ 0 → (Decimal.shortest style.tie f x.pattern).digits ≠ 0) :
    Denotes (String.ofList (floatText style x)) x.negative
      (Decimal.shown style.tie f x.pattern).value := by
  have htext : ∃ l : Literal, l.negative = x.negative ∧
      l.magnitude = (Decimal.shown style.tie f x.pattern).value ∧
      (if x.isZero then '0' :: (if style.layout.markWhole then ['.', '0'] else [])
        else style.layout.render (.shortest style.tie f x.pattern)) = l.unsigned := by
    unfold Decimal.shown Binary.isZero
    by_cases hzero : x.pattern = 0
    · refine ⟨⟨x.negative, .zero, fun _ => rfl, some .zero, none⟩, rfl, ?_, ?_⟩
      · simp [hzero, Literal.magnitude, Literal.allDigits, Decimal.value, Nat.ofDigitChars_cons]
      · simp [hzero, hmark, Literal.unsigned, Literal.tail]
    · obtain ⟨l, hn, hu, hm⟩ :=
        render_writes style.layout hmark hexponent x.negative (hshown hzero)
      refine ⟨l, hn, ?_, ?_⟩
      · rw [hm, if_neg hzero]
      · simp only [hzero, decide_false, Bool.false_eq_true, if_false]
        exact hu
  obtain ⟨l, hn, hm, hu⟩ := htext
  refine ⟨l, ?_, hn, hm⟩
  rw [String.toList_ofList, floatText, if_pos hx, Style.text, hu, Literal.chars, hn]

/-- The text of a candidate's score. -/
theorem single_denotes {x : Single} (hx : x.isFinite = true) :
    Denotes (Tree.single x).render x.negative (Decimal.shown .even Number.single x.pattern).value := by
  have hf : x.pattern < Number.single.infinity := by simpa [Binary.isFinite] using hx
  have hchars : (Tree.single x).render = String.ofList (floatText singleStyle x) := by
    rw [Tree.render, Tree.chars]
  rw [hchars]
  refine floatText_denotes singleStyle rfl (by decide) hx fun hp => ?_
  exact Decimal.digits_ne_zero hp (Decimal.shortest_single _ hp hf).1

/-- The text of a finite 64-bit number. -/
theorem double_denotes {y : Double} (hy : y.isFinite = true)
    (hshown : y.pattern ≠ 0 → (Decimal.shortest .even Number.double y.pattern).digits ≠ 0) :
    Denotes (Tree.double y).render y.negative (Decimal.shown .even Number.double y.pattern).value := by
  have hchars : (Tree.double y).render = String.ofList (floatText doubleStyle y) := by
    rw [Tree.render, Tree.chars]
  rw [hchars]
  exact floatText_denotes doubleStyle rfl (by decide) hy hshown

end Json

/-! ### The text of a value -/

/-- Zero keeps its sign on the way to 64 bits. -/
theorem convert_zero {x : Single} (hx : x.pattern = 0) :
    x.convert double = Binary.ofPattern double x.negative 0 := by
  have hnan : x.isNaN = false := decide_eq_false (by rw [hx]; exact Nat.not_lt_zero _)
  have hinf : x.isInfinite = false := decide_eq_false (by rw [hx]; decide)
  have hround : double.round (single.units 0) (Nat.pow 2 single.unitPower) = 0 := by
    apply Format.round_units (by decide) (Nat.two_pow_pos _) (Nat.zero_le _)
    rw [Format.units_of_lt (by decide), Format.units_of_lt (by decide), Nat.zero_mul, Nat.zero_mul]
  simp only [Binary.convert, hnan, hinf, Bool.false_eq_true, if_false, Binary.ofQuotient, hx, hround]

/-- The text of a float value: the decimal that is shown for the score survives the detour. -/
theorem Value.float_denotes {x : Single} (hx : x.isFinite = true) :
    Denotes (Value.float x).toJson.render x.negative
      (Decimal.shown .away single x.pattern).value := by
  have hf : x.pattern < single.infinity := by simpa [Binary.isFinite] using hx
  have hnan : x.isNaN = false := decide_eq_false (by omega)
  have hinf : x.isInfinite = false := decide_eq_false (by omega)
  unfold Value.toJson Value.floatJson
  simp only [hnan, hinf, Bool.false_eq_true, if_false]
  by_cases hzero : x.pattern = 0
  · have hzero' : x.isZero = true := decide_eq_true hzero
    rw [if_pos hzero', convert_zero hzero]
    have hpattern : (Binary.ofPattern double x.negative 0).pattern = 0 := rfl
    have hdenotes := Json.double_denotes (y := Binary.ofPattern double x.negative 0) rfl
      (fun h => absurd hpattern h)
    rw [hpattern, Decimal.shown_zero] at hdenotes
    rw [hzero, Decimal.shown_zero]
    exact hdenotes
  · have hnonzero : x.isZero = false := decide_eq_false hzero
    obtain ⟨hn, hfinite, hvalue⟩ := Decimal.shortest_wide .away .even hzero hf x.negative
    rw [if_neg (by rw [hnonzero]; decide)]
    generalize hy : (Decimal.shortest .away single x.pattern).toBinary double x.negative = y
      at hn hfinite hvalue
    have hnegative : y.negative = x.negative := by
      rw [← hy]
      rfl
    have hy0 : y.pattern ≠ 0 := by
      have := double.leading_pos
      omega
    have hsingle := (Decimal.shortest_single .away hzero hf).1
    have hdigits : (Decimal.shortest .even double y.pattern).digits ≠ 0 := by
      rw [← hvalue] at hsingle
      exact Decimal.digits_ne_zero hzero hsingle
    have hdenotes := Json.double_denotes (decide_eq_true hfinite) fun _ => hdigits
    rw [hnegative, Decimal.shown, if_neg hy0, hvalue] at hdenotes
    rwa [Decimal.shown, if_neg hzero]

/-! ### Both texts -/

/-- Numbers of one sign with texts of decimals that are rounded to them are the same. -/
theorem eq_of_texts {x y : Single} {s t : String} {c d : Decimal} (hst : s = t)
    (hs : Denotes s x.negative c.value) (ht : Denotes t y.negative d.value)
    (hx : single.Nearest c.value x.pattern) (hy : single.Nearest d.value y.pattern) : x = y := by
  rw [hst] at hs
  obtain ⟨hnegative, hvalue⟩ := hs.unique ht
  rw [hvalue] at hx
  have hpattern := hx.unique hy
  rw [← Binary.ofPattern_self x, ← Binary.ofPattern_self y, hnegative, hpattern]

/-- For every candidate with a finite score, both texts of the score write a shortest decimal that is
rounded to it. The two decimals are equal, or the score lies halfway between them, the last digit of
the candidate's even. No other finite number has either text. -/
theorem score_texts (c : Candidate) (hfinite : c.score.isFinite = true) :
    ∃ (shown written : Decimal) (number : Tree),
      c.toJson = .object [("text", .string c.text), ("totalScore", number),
        ("featureValues", .string c.features)] ∧
      Denotes (Value.float c.score).toJson.render c.score.negative shown.value ∧
      Denotes number.render c.score.negative written.value ∧
      shown.IsShortest single c.score.pattern ∧ written.IsShortest single c.score.pattern ∧
      (shown.value = written.value ∨ ∃ (n : Nat) (k : Int), n % 2 = 0 ∧
        shown.value = (n + 1) * 10 ^ k ∧ written.value = n * 10 ^ k ∧
        single.value c.score.pattern = (n + 1 / 2) * 10 ^ k) ∧
      ∀ y : Single, y.isFinite = true →
        ((Value.float y).toJson.render = (Value.float c.score).toJson.render ∨
          (Tree.single y).render = number.render) → y = c.score := by
  have hpattern {y : Single} (hy : y.isFinite = true) : y.pattern < single.infinity := by
    simpa [Binary.isFinite] using hy
  have hshort (tie : Tie) {y : Single} (hy : y.isFinite = true) :=
    Decimal.shown_isShortest tie (hpattern hy)
  refine ⟨.shown .away single c.score.pattern, .shown .even single c.score.pattern,
    .single c.score, rfl, Value.float_denotes hfinite, Json.single_denotes hfinite,
    hshort .away hfinite, hshort .even hfinite, Decimal.shown_tie (hpattern hfinite), ?_⟩
  rintro y hy (htext | htext)
  · exact eq_of_texts htext (Value.float_denotes hy) (Value.float_denotes hfinite)
      (hshort .away hy).rounded (hshort .away hfinite).rounded
  · exact eq_of_texts htext (Json.single_denotes hy) (Json.single_denotes hfinite)
      (hshort .even hy).rounded (hshort .even hfinite).rounded

theorem score_texts_tenth :
    let c : Candidate := ⟨"", .ofBits single 0x3dcccccd, ""⟩
    c.score.isFinite = true ∧ ∃ (shown written : Decimal) (number : Tree),
      Denotes (Value.float c.score).toJson.render c.score.negative shown.value ∧
      Denotes number.render c.score.negative written.value ∧
      shown.IsShortest single c.score.pattern ∧ written.IsShortest single c.score.pattern := by
  intro c
  have hfinite : c.score.isFinite = true := by decide
  obtain ⟨shown, written, number, -, hs, hw, hshown, hwritten, -⟩ := score_texts c hfinite
  exact ⟨hfinite, shown, written, number, hs, hw, hshown, hwritten⟩

theorem shown_halfway : Decimal.shown .away single 1208116456 = ⟨13352363, -2⟩ ∧
    Decimal.shown .even single 1208116456 = ⟨13352362, -2⟩ := by
  decide +kernel

/-- The number 133523.625 lies halfway between two decimals of eight digits: its two texts write
different numbers. -/
theorem score_texts_differ :
    let x : Single := .ofBits single 0x480264e8
    x.isFinite = true ∧ (Value.float x).toJson.render = "133523.63" ∧
      (⟨"", x, ""⟩ : Candidate).toJson.render =
        "\x7b\"text\":\"\",\"totalScore\":133523.62,\"featureValues\":\"\"\x7d" ∧
      (Tree.single x).render = "133523.62" ∧
      ¬ ∃ (negative : Bool) (q : ℚ), Denotes (Value.float x).toJson.render negative q ∧
        Denotes (Tree.single x).render negative q := by
  intro x
  have hfinite : x.isFinite = true := by decide
  refine ⟨hfinite, by decide +kernel, by decide +kernel, by decide +kernel, ?_⟩
  rintro ⟨negative, q, hshown, hwritten⟩
  have hpattern : x.pattern = 1208116456 := by decide
  have haway := (hshown.unique (Value.float_denotes hfinite)).2
  have heven := (hwritten.unique (Json.single_denotes hfinite)).2
  rw [hpattern, shown_halfway.1] at haway
  rw [hpattern, shown_halfway.2, haway] at heven
  norm_num [Decimal.value] at heven

end DecoderExport
