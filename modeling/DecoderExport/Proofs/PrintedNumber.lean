import DecoderExport.Json.Tree
import DecoderExport.Proofs.LiteralValue
import DecoderExport.Proofs.Magnitude

/-!
# Printed numbers are read

The text of a finite 32-bit number is a literal of the grammar, and the number that the literal
writes is in range. For the range it is enough that the shortest decimal of a number has a leading
exponent below two hundred; the bounds on the way are far from sharp.
-/

namespace DecoderExport

namespace Number

/-! ### The shortest decimal -/

/-- The exponent of the leading digit. -/
def Decimal.leading (d : Decimal) : Int := d.exponent + (decimalDigits d.digits).length - 1

theorem decimalDigits_length_le {n k : Nat} (hk : 0 < k) (h : n < 10 ^ k) :
    (decimalDigits n).length ≤ k :=
  (Nat.length_toDigits_le_iff (by decide) hk).2 h

theorem decimalDigits_length_pos (n : Nat) : 0 < (decimalDigits n).length :=
  Nat.length_toDigits_pos

theorem Decimal.trim_spec (d : Decimal) (h : d.digits ≠ 0) :
    d.trim.digits ≠ 0 ∧ d.trim.leading = d.leading := by
  fun_induction Decimal.trim d with
  | case1 d hd ih =>
    have hten : 10 ≤ d.digits := by omega
    obtain ⟨hne, hleading⟩ := ih (by show d.digits / 10 ≠ 0; omega)
    refine ⟨hne, hleading.trans ?_⟩
    have hlength :
        (decimalDigits d.digits).length = (decimalDigits (d.digits / 10)).length + 1 := by
      unfold decimalDigits
      rw [Nat.toDigits_of_base_le (by decide) hten, List.length_append, List.length_singleton]
    simp only [leading, hlength]
    omega
  | case2 d hd => exact ⟨h, rfl⟩

theorem Format.units_pos (f : Format) {pattern : Nat} (h : pattern ≠ 0) :
    Nat.pow 2 (pattern / f.leading - 1) ≤ f.units pattern := by
  unfold units
  split
  · rename_i h0
    rw [h0]
    exact Nat.one_le_iff_ne_zero.2 h
  · exact Nat.le_mul_of_pos_left _ (by have := f.leading_pos; omega)

/-- Zero lies outside of the span of any other number. -/
theorem Format.span_low_pos (f : Format) {pattern : Nat} (h : pattern ≠ 0) :
    0 < (f.span pattern).low := by
  have hunits := f.units_pos h
  have hgap : 0 < Nat.pow 2 (pattern / f.leading - 1) := Nat.two_pow_pos _
  unfold span
  simp only
  split <;> omega

/-- The digits of the decimal at a place that is next below the value of a pattern. -/
def Decimal.below (f : Format) (pattern : Nat) (exponent : Int) : Nat :=
  (f.span pattern).value * Nat.pow 10 (-exponent).toNat /
    (4 * Nat.pow 2 f.unitPower * Nat.pow 10 exponent.toNat)

/-- A decimal at a place lies in the span of the pattern, and is one of the two next to its value. -/
theorem Decimal.atPlace?_spec {tie : Tie} {f : Format} {pattern : Nat} {exponent : Int}
    {d : Decimal} (h : atPlace? tie f pattern exponent = some d) :
    d.exponent = exponent ∧
      (d.digits = below f pattern exponent ∨ d.digits = below f pattern exponent + 1) ∧
      (f.span pattern).holds (d.digits * (4 * Nat.pow 2 f.unitPower * Nat.pow 10 exponent.toNat))
        (Nat.pow 10 (-exponent).toNat) = true := by
  unfold atPlace? at h
  unfold below
  simp only at h
  generalize (f.span pattern).value * Nat.pow 10 (-exponent).toNat /
      (4 * Nat.pow 2 f.unitPower * Nat.pow 10 exponent.toNat) = below at h ⊢
  split at h
  · cases h
  · rename_i hlow _
    cases h
    exact ⟨rfl, .inl rfl, hlow⟩
  · rename_i _ hhigh
    cases h
    exact ⟨rfl, .inr rfl, hhigh⟩
  · rename_i hlow hhigh
    split at h
    · cases h
      exact ⟨rfl, .inl rfl, hlow⟩
    · split at h
      · cases h
        exact ⟨rfl, .inr rfl, hhigh⟩
      · split at h
        · cases h
          exact ⟨rfl, .inr rfl, hhigh⟩
        · cases h
          rcases Nat.mod_two_eq_zero_or_one below with hmod | hmod
          · rw [hmod]
            exact ⟨rfl, .inl rfl, hlow⟩
          · rw [hmod]
            exact ⟨rfl, .inr rfl, hhigh⟩

theorem Decimal.below_le (f : Format) (pattern : Nat) (exponent : Int) :
    below f pattern exponent ≤ (f.span pattern).value * 10 ^ (-exponent).toNat :=
  Nat.div_le_self _ _

theorem Decimal.atPlace?_digits_ne_zero {tie : Tie} {f : Format} {pattern : Nat} {exponent : Int}
    {d : Decimal} (hp : pattern ≠ 0) (h : atPlace? tie f pattern exponent = some d) :
    d.digits ≠ 0 := by
  obtain ⟨-, -, hholds⟩ := atPlace?_spec h
  have hlow := f.span_low_pos hp
  have hup : 0 < Nat.pow 10 (-exponent).toNat := Nat.pow_pos (by decide)
  have hproduct := Nat.mul_pos hlow hup
  intro h0
  rw [h0, Nat.zero_mul] at hholds
  unfold Span.holds at hholds
  split at hholds
  · simp only [Bool.and_eq_true, decide_eq_true_eq] at hholds
    omega
  · simp only [Bool.and_eq_true, decide_eq_true_eq] at hholds
    omega

theorem units_single_lt {pattern : Nat} (h : pattern < single.infinity) :
    single.units pattern < 10 ^ 85 :=
  calc single.units pattern < 2 * single.leading * 2 ^ 255 := Format.units_lt (Nat.le_of_lt h)
    _ = 16777216 * 2 ^ 255 := rfl
    _ < 10 ^ 85 := by norm_num

theorem leadingExponent_bounds {num den j k : Nat} (hj : 0 < j) (hk : 0 < k)
    (hnum : num < den * 10 ^ j) (hden : den < 10 ^ k) :
    -(k : Int) ≤ leadingExponent num den ∧ leadingExponent num den < j := by
  unfold leadingExponent
  split
  · have hlength := decimalDigits_length_le hj (Nat.div_lt_of_lt_mul hnum)
    have hpos := decimalDigits_length_pos (num / den)
    omega
  · have hlength := decimalDigits_length_le hk (Nat.lt_of_le_of_lt (Nat.div_le_self den num) hden)
    have hpos := decimalDigits_length_pos (den / num)
    simp only
    split <;> omega

/-- The shortest decimal of a 32-bit number is not zero, and its leading exponent is moderate. -/
theorem Decimal.shortest_spec (tie : Tie) {pattern : Nat} (hp : pattern ≠ 0)
    (hf : pattern < single.infinity) :
    (shortest tie single pattern).digits ≠ 0 ∧ (shortest tie single pattern).leading ≤ 190 := by
  have hunits := units_single_lt hf
  have hden : Nat.pow 2 single.unitPower < 10 ^ 45 := by decide
  have hnum : single.units pattern < Nat.pow 2 single.unitPower * 10 ^ 41 :=
    Nat.lt_trans hunits (by decide)
  obtain ⟨hlow, hhigh⟩ := leadingExponent_bounds (by decide) (by decide) hnum hden
  unfold shortest
  generalize leadingExponent (single.units pattern) (Nat.pow 2 single.unitPower) = start
    at hlow hhigh
  simp only
  cases hfound : (List.range 17).findSome?
      fun (n : Nat) => atPlace? tie single pattern (start - n) with
  | none =>
    have hpos := single.units_pos hp
    have hgap : 0 < Nat.pow 2 (pattern / single.leading - 1) := Nat.two_pow_pos _
    have hne : single.units pattern ≠ 0 := by omega
    obtain ⟨hdigits, hleading⟩ := trim_spec ⟨single.units pattern, 0⟩ hne
    have hlength := decimalDigits_length_le (by decide) hunits
    refine ⟨hdigits, ?_⟩
    rw [Option.getD_none, hleading]
    simp only [leading]
    omega
  | some d =>
    obtain ⟨n, hn, hd⟩ := List.exists_of_findSome?_eq_some hfound
    have hn := List.mem_range.1 hn
    obtain ⟨hexponent, hdigits, -⟩ := atPlace?_spec hd
    obtain ⟨hdigits', hleading⟩ := trim_spec d (atPlace?_digits_ne_zero hp hd)
    -- At most sixteen places below the leading one, so the scaling is bounded.
    have hup : 10 ^ (-(start - (n : Int))).toNat ≤ 10 ^ 61 :=
      Nat.pow_le_pow_right (by decide) (by omega)
    have hlength : (decimalDigits d.digits).length ≤ 147 := by
      apply decimalDigits_length_le (by decide)
      have hbelow := below_le single pattern (start - n)
      calc d.digits ≤ 4 * single.units pattern * 10 ^ (-(start - (n : Int))).toNat + 1 := by
            show _ ≤ (single.span pattern).value * _ + 1
            omega
        _ ≤ 4 * 10 ^ 85 * 10 ^ 61 + 1 := by
          have := Nat.mul_le_mul (Nat.mul_le_mul_left 4 (Nat.le_of_lt hunits)) hup
          omega
        _ < 10 ^ 147 := by norm_num
    refine ⟨hdigits', ?_⟩
    rw [Option.getD_some, hleading]
    simp only [leading]
    omega

end Number

namespace Json

open DecoderExport.Number (Decimal Layout decimalDigits)

/-! ### Literals in range -/

theorem absorb_lt {significand : Nat} (h : significand < significandBound) (ds : List Char) :
    (absorb significand ds).1 < significandBound := by
  induction ds generalizing significand with
  | nil => exact h
  | cons c ds ih =>
    simp only [absorb]
    split
    · rename_i hlt
      exact ih hlt
    · exact h

theorem absorb_length_le (significand : Nat) (ds : List Char) :
    (absorb significand ds).2.length ≤ ds.length := by
  induction ds generalizing significand with
  | nil => exact Nat.le_refl _
  | cons c ds ih =>
    simp only [absorb]
    split
    · exact Nat.le_succ_of_le (ih _)
    · exact Nat.le_refl _

namespace Literal

theorem scaled_bounds (l : Literal) :
    l.scaled.1 < significandBound ∧ l.scaled.2 ≤ l.whole.chars.length := by
  have hhead : l.head.1 < significandBound := absorb_lt (by decide) l.whole.chars
  have hdropped : l.head.2 ≤ l.whole.chars.length := absorb_length_le 0 l.whole.chars
  unfold scaled
  cases l.fraction with
  | none => exact ⟨hhead, by simp only; omega⟩
  | some f => exact ⟨absorb_lt hhead f.chars, by simp only; omega⟩

theorem float?_isSome (negative : Bool) {significand : Nat} {exponent : Int}
    (hs : significand < significandBound) (he : exponent ≤ 200) :
    (float? negative significand exponent).isSome := by
  unfold float?
  rw [Option.isSome_map]
  exact Number.scale?_isSome hs he

/-- A literal with a moderate number of digits before the point and a moderate power is in range. -/
theorem value?_isSome (l : Literal) (hw : l.whole.chars.length ≤ 200)
    (hp : ∀ p, l.power = some p → p.sign.raises = true →
      ∃ n, readPower 0 p.digits.chars = .ok (n, []) ∧ l.whole.chars.length + n ≤ 200) :
    l.value?.isSome := by
  obtain ⟨hs, he⟩ := l.scaled_bounds
  unfold value?
  cases hpower : l.power with
  | none =>
    simp only
    split
    · rfl
    · exact float?_isSome _ hs (by omega)
  | some p =>
    simp only [powered?]
    cases hr : p.sign.raises with
    | true =>
      obtain ⟨n, hn, hle⟩ := hp p hpower hr
      rw [hn]
      simp only [if_true]
      exact float?_isSome _ hs (by omega)
    | false =>
      cases readPower 0 p.digits.chars with
      | ok x =>
        simp only [Bool.false_eq_true, if_false]
        exact float?_isSome _ hs (by omega)
      | error r => simp

end Literal

/-! ### The two layouts -/

/-- A literal without a power whose unsigned text is the given one and that writes a decimal. -/
structure InPlace (negative : Bool) (d : Decimal) (text : List Char) (l : Literal) : Prop where
  negative : l.negative = negative
  unsigned : text = l.unsigned
  magnitude : l.magnitude = d.value
  power : l.power = none

section

variable (negative : Bool) {d : Decimal} {digits : List Char}
  (hvalue : Nat.ofDigitChars 10 digits 0 = d.digits) (hne : digits ≠ [])
  (hdigits : ∀ c ∈ digits, c.isDigit = true)

theorem isDigit_zeros (n : Nat) : ∀ c ∈ List.replicate n '0', c.isDigit = true := by
  intro c hc
  rw [List.eq_of_mem_replicate hc]
  decide

include hvalue hne hdigits

/-- The digits of a whole number with the zeros up to the point. -/
theorem whole_literal (hhead : digits.head? ≠ some '0') (he : 0 ≤ d.exponent) :
    ∃ l, InPlace negative d (digits ++ List.replicate d.exponent.toNat '0' ++ ['.', '0']) l ∧
      l.whole.chars.length = digits.length + d.exponent.toNat := by
  have hwhole : ∀ c ∈ digits ++ List.replicate d.exponent.toNat '0', c.isDigit = true := by
    intro c hc
    rcases List.mem_append.1 hc with hc | hc
    · exact hdigits c hc
    · exact isDigit_zeros _ c hc
  have hlead : (digits ++ List.replicate d.exponent.toNat '0').head? ≠ some '0' := by
    rw [List.head?_append_of_ne_nil _ hne]
    exact hhead
  refine ⟨⟨negative, ⟨_, by simp [hne], hwhole⟩, fun h => absurd h hlead, some .zero, none⟩,
    ⟨rfl, ?_, Literal.magnitude_eq (d.exponent.toNat + 1) ?_ ?_, rfl⟩, by simp⟩
  · simp [Literal.unsigned, Literal.tail]
  · simp [Literal.allDigits, Nat.ofDigitChars_append, Nat.ofDigitChars_replicate_zero,
      Nat.ofDigitChars_cons, hvalue, Nat.pow_succ', Nat.mul_assoc]
  · simp [Literal.lastPlace]
    omega

/-- Digits with the point between two of them. -/
theorem split_literal (hhead : digits.head? ≠ some '0') {k : Nat} (hk : 0 < k)
    (hlength : k < digits.length) (he : d.exponent = k - digits.length) :
    ∃ l, InPlace negative d (digits.take k ++ '.' :: digits.drop k) l ∧
      l.whole.chars.length = k := by
  have hrest : digits.drop k ≠ [] := List.ne_nil_of_length_pos (by rw [List.length_drop]; omega)
  have hlead : (digits.take k).head? ≠ some '0' := by
    rw [List.head?_take, if_neg (by omega)]
    exact hhead
  refine ⟨⟨negative,
    ⟨digits.take k, by simp [hne]; omega, fun c hc => hdigits c (List.mem_of_mem_take hc)⟩,
    fun h => absurd h hlead,
    some ⟨digits.drop k, hrest, fun c hc => hdigits c (List.mem_of_mem_drop hc)⟩, none⟩,
    ⟨rfl, ?_, Literal.magnitude_eq 0 ?_ ?_, rfl⟩, ?_⟩
  · simp [Literal.unsigned, Literal.tail]
  · simp [Literal.allDigits, hvalue]
  · simp [Literal.lastPlace]
    omega
  · rw [List.length_take]
    omega

/-- Digits with zeros between them and the point. -/
theorem fraction_literal {zeros : Nat} (he : d.exponent = -(zeros + digits.length : Nat)) :
    ∃ l, InPlace negative d ('0' :: '.' :: (List.replicate zeros '0' ++ digits)) l ∧
      l.whole.chars.length = 1 := by
  have hfraction : ∀ c ∈ List.replicate zeros '0' ++ digits, c.isDigit = true := by
    intro c hc
    rcases List.mem_append.1 hc with hc | hc
    · exact isDigit_zeros _ c hc
    · exact hdigits c hc
  refine ⟨⟨negative, .zero, fun _ => rfl, some ⟨_, by simp [hne], hfraction⟩, none⟩,
    ⟨rfl, ?_, Literal.magnitude_eq 0 ?_ ?_, rfl⟩, rfl⟩
  · simp [Literal.unsigned, Literal.tail]
  · simp [Literal.allDigits, Nat.ofDigitChars_append, Nat.ofDigitChars_replicate_zero,
      Nat.ofDigitChars_cons, hvalue]
  · simp [Literal.lastPlace]
    omega

end

/-- Digits in place make a literal without a power. -/
theorem place_literal (layout : Layout) (hmark : layout.markWhole = true) (negative : Bool)
    {d : Decimal} (hd : d.digits ≠ 0) :
    ∃ l : Literal, l.negative = negative ∧ layout.place d = l.unsigned ∧ l.magnitude = d.value ∧
      l.power = none ∧ (l.whole.chars.length : Int) ≤ max 1 (d.leading + 1) := by
  have hpos := Number.decimalDigits_length_pos d.digits
  have hhead : (decimalDigits d.digits).head? ≠ some '0' := fun h => hd (decimalDigits_head h)
  have hdigits : ∀ c ∈ decimalDigits d.digits, c.isDigit = true := (Digits.ofNat d.digits).digits
  have hvalue := ofDigitChars_decimalDigits d.digits
  have hleading : d.exponent + (decimalDigits d.digits).length - 1 = d.leading := rfl
  have hplaced : ∃ l, InPlace negative d (layout.place d) l ∧
      (l.whole.chars.length : Int) ≤ max 1 (d.leading + 1) := by
    unfold Layout.place
    simp only [hleading, hmark, if_true]
    generalize decimalDigits d.digits = digits at *
    have hne : digits ≠ [] := List.ne_nil_of_length_pos hpos
    split
    · rename_i he
      obtain ⟨l, hl, hlength⟩ := whole_literal negative hvalue hne hdigits hhead he
      exact ⟨l, hl, by omega⟩
    · split
      · obtain ⟨l, hl, hlength⟩ := split_literal negative hvalue hne hdigits hhead
          (show 0 < d.leading.toNat + 1 by omega) (by omega) (by omega)
        exact ⟨l, hl, by omega⟩
      · obtain ⟨l, hl, hlength⟩ := fraction_literal negative hvalue hne hdigits
          (show d.exponent = -(((-d.leading - 1).toNat + digits.length : Nat) : Int) by omega)
        exact ⟨l, hl, by omega⟩
  obtain ⟨l, hl, hlength⟩ := hplaced
  exact ⟨l, hl.negative, hl.unsigned, hl.magnitude, hl.power, hlength⟩

/-- One digit with a power makes a literal; a power that is large is one that raises. -/
theorem scale_literal (layout : Layout) (hlayout : layout.exponentDigits ≤ 1) (negative : Bool)
    {d : Decimal} (hd : d.digits ≠ 0) :
    ∃ l : Literal, l.negative = negative ∧ layout.scale d = l.unsigned ∧ l.magnitude = d.value ∧
      l.whole.chars.length = 1 ∧ ∃ p, l.power = some p ∧ p.digits = .ofNat d.leading.natAbs ∧
        (p.sign.raises = true → 0 ≤ d.leading) := by
  have hpos := Number.decimalDigits_length_pos d.digits
  have hhead : (decimalDigits d.digits).head? ≠ some '0' := fun h => hd (decimalDigits_head h)
  have hdigits : ∀ c ∈ decimalDigits d.digits, c.isDigit = true := (Digits.ofNat d.digits).digits
  have hvalue := ofDigitChars_decimalDigits d.digits
  have hleading : d.exponent + (decimalDigits d.digits).length - 1 = d.leading := rfl
  have hpadding : layout.exponentDigits - (decimalDigits d.leading.natAbs).length = 0 := by
    have := Number.decimalDigits_length_pos d.leading.natAbs
    omega
  have hpower : Power.exponent ⟨'e', by decide, if 0 ≤ d.leading then .plus else .minus,
      .ofNat d.leading.natAbs⟩ = d.leading := by
    have hnat : Nat.ofDigitChars 10 (Digits.ofNat d.leading.natAbs).chars 0 = d.leading.natAbs :=
      ofDigitChars_decimalDigits _
    unfold Power.exponent
    rw [hnat]
    by_cases hsign : 0 ≤ d.leading
    · simp only [if_pos hsign, PowerSign.raises, if_true]
      omega
    · simp only [if_neg hsign, PowerSign.raises, Bool.false_eq_true, if_false]
      omega
  unfold Layout.scale
  simp only [hleading, hpadding, List.replicate_zero, List.nil_append]
  generalize decimalDigits d.digits = digits at *
  have hne : digits ≠ [] := List.ne_nil_of_length_pos hpos
  have hrest : digits.length ≠ 1 → digits.drop 1 ≠ [] := by
    intro h
    exact List.ne_nil_of_length_pos (by rw [List.length_drop]; omega)
  refine ⟨⟨negative,
    ⟨digits.take 1, by simp [hne], fun c hc => hdigits c (List.mem_of_mem_take hc)⟩, ?_,
    if h : digits.length = 1 then none
      else some ⟨digits.drop 1, hrest h, fun c hc => hdigits c (List.mem_of_mem_drop hc)⟩,
    some ⟨'e', by decide, if 0 ≤ d.leading then .plus else .minus, .ofNat d.leading.natAbs⟩⟩,
    rfl, ?_, Literal.magnitude_eq 0 ?_ ?_, ?_, _, rfl, rfl, ?_⟩
  · intro h
    rw [List.head?_take, if_neg (by decide)] at h
    exact absurd h hhead
  · by_cases hone : digits.length = 1 <;> by_cases hsign : 0 ≤ d.leading <;>
      simp [Literal.unsigned, Literal.tail, Power.chars, PowerSign.chars, Digits.ofNat, hone, hsign]
  · by_cases hone : digits.length = 1
    · simp [Literal.allDigits, hone, hvalue, List.take_of_length_le]
    · simp only [Literal.allDigits, dif_neg hone, Option.elim_some, List.take_append_drop, hvalue,
        Nat.pow_zero, Nat.one_mul]
  · by_cases hone : digits.length = 1 <;>
      simp [Literal.lastPlace, hpower, hone] <;> omega
  · rw [List.length_take]
    omega
  · by_cases hsign : 0 ≤ d.leading
    · exact fun _ => hsign
    · simp [PowerSign.raises, hsign]

/-! ### Numbers of 32 bits -/

theorem render_literal (negative : Bool) {d : Decimal} (hd : d.digits ≠ 0) (hl : d.leading ≤ 190) :
    ∃ l : Literal, l.negative = negative ∧ singleStyle.layout.render d = l.unsigned ∧
      l.value?.isSome := by
  have hrender : singleStyle.layout.render d =
      if -6 ≤ d.leading ∧ d.leading ≤ 12 then singleStyle.layout.place d
      else singleStyle.layout.scale d := by
    show (if decide (-6 ≤ d.leading) && decide (d.leading ≤ 12) then _ else _) = _
    simp only [Bool.and_eq_true, decide_eq_true_eq]
  rw [hrender]
  split
  · rename_i hin
    obtain ⟨l, hn, hu, -, hpower, hlength⟩ :=
      place_literal singleStyle.layout rfl negative hd
    refine ⟨l, hn, hu, l.value?_isSome (by omega) ?_⟩
    intro p hp
    rw [hpower] at hp
    cases hp
  · obtain ⟨l, hn, hu, -, hlength, p, hpower, hdigits, hraises⟩ :=
      scale_literal singleStyle.layout (by decide) negative hd
    refine ⟨l, hn, hu, l.value?_isSome (by omega) ?_⟩
    intro p' hp' hr
    rw [hpower] at hp'
    cases hp'
    have hvalue : Nat.ofDigitChars 10 p.digits.chars 0 = d.leading.natAbs := by
      rw [hdigits]
      exact ofDigitChars_decimalDigits _
    have hnonneg := hraises hr
    refine ⟨d.leading.natAbs, ?_, by omega⟩
    rw [readPower_eq p.digits.digits (by rw [hvalue]; unfold exponentBound; omega), hvalue]

/-- The text of a finite 32-bit number is a literal in range. -/
theorem floatText_literal {x : Number.Single} (h : x.isFinite = true) :
    ∃ l : Literal, floatText singleStyle x = l.chars ∧ l.value?.isSome := by
  have hfinite : x.pattern < Number.single.infinity := by simpa [Number.Binary.isFinite] using h
  have htext : ∃ l : Literal, l.negative = x.negative ∧ l.value?.isSome ∧
      (if x.isZero then '0' :: (if singleStyle.layout.markWhole then ['.', '0'] else [])
        else singleStyle.layout.render (.shortest singleStyle.tie Number.single x.pattern)) =
          l.unsigned := by
    by_cases hzero : x.pattern = 0
    · refine ⟨⟨x.negative, .zero, fun _ => rfl,
        some .zero, none⟩, rfl, Literal.value?_isSome _ (show 1 ≤ 200 by decide) nofun, ?_⟩
      simp [Number.Binary.isZero, hzero, Literal.unsigned, Literal.tail, singleStyle]
    · obtain ⟨hd, hl⟩ := Decimal.shortest_spec singleStyle.tie hzero hfinite
      obtain ⟨l, hn, hu, hv⟩ := render_literal x.negative hd hl
      refine ⟨l, hn, hv, ?_⟩
      simp only [Number.Binary.isZero, hzero, decide_false, Bool.false_eq_true, if_false]
      exact hu
  obtain ⟨l, hn, hv, hu⟩ := htext
  refine ⟨l, ?_, hv⟩
  unfold floatText Number.Style.text
  rw [if_pos h, hu]
  unfold Literal.chars
  rw [hn]

end Json

end DecoderExport
