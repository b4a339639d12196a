import DecoderExport.Proofs.Tokens
import Mathlib.Tactic.IntervalCases

/-!
# How numbers are spelled

A `Literal` is a number of the JSON grammar: a sign, digits without a leading zero, a fraction and a
power of ten, all digits without bound. Every literal is read to its end, whatever follows, and its
value does not depend on what follows. There is no value exactly where the reader says that the
number is out of range.
-/

namespace DecoderExport.Json

open DecoderExport.Number (Double)

/-- Decimal digits, at least one. -/
structure Digits where
  chars : List Char
  nonempty : chars ≠ []
  digits : ∀ c ∈ chars, c.isDigit = true

/-- A lone zero. -/
def Digits.zero : Digits := ⟨['0'], by decide, List.forall_mem_singleton.2 (by decide)⟩

@[simp] theorem Digits.chars_zero : Digits.zero.chars = ['0'] := rfl

/-- The sign of a power of ten. -/
inductive PowerSign where
  | absent
  | plus
  | minus

/-- How the sign of a power is written. -/
def PowerSign.chars : PowerSign → List Char
  | .absent => []
  | .plus => ['+']
  | .minus => ['-']

/-- Whether a power makes the number larger. -/
def PowerSign.raises : PowerSign → Bool
  | .minus => false
  | _ => true

/-- A power of ten behind a number. -/
structure Power where
  mark : Char
  isMark : isExponentMark mark = true
  sign : PowerSign
  digits : Digits

/-- How a power is written. -/
def Power.chars (p : Power) : List Char := p.mark :: (p.sign.chars ++ p.digits.chars)

theorem Power.mark_ne_point (p : Power) : p.mark ≠ '.' := by
  intro h
  have hm := p.isMark
  rw [h] at hm
  exact absurd hm (by decide)

/-- A number of the JSON grammar. -/
structure Literal where
  negative : Bool
  whole : Digits
  noLeadingZero : whole.chars.head? = some '0' → whole.chars = ['0']
  fraction : Option Digits
  power : Option Power

namespace Literal

/-- What follows the digits before the point. -/
def tail (l : Literal) : List Char :=
  l.fraction.elim [] ('.' :: ·.chars) ++ l.power.elim [] Power.chars

/-- How a number is written behind its sign. -/
def unsigned (l : Literal) : List Char := l.whole.chars ++ l.tail

/-- How a number is written. -/
def chars (l : Literal) : List Char := (if l.negative then ['-'] else []) ++ l.unsigned

/-- The digits before the point that fit the significand, and how many do not. -/
def head (l : Literal) : Nat × Nat :=
  ((absorb 0 l.whole.chars).1, (absorb 0 l.whole.chars).2.length)

/-- The significand and the power of ten of what stands before the exponent. -/
def scaled (l : Literal) : Nat × Int :=
  match l.fraction with
  | none => (l.head.1, l.head.2)
  | some f =>
    ((absorb l.head.1 f.chars).1,
      l.head.2 - (f.chars.length - (absorb l.head.1 f.chars).2.length : Nat))

/-- The float with a significand and a power of ten, if it is in range. -/
def float? (negative : Bool) (significand : Nat) (exponent : Int) : Option Numeral :=
  (Number.scale? significand exponent).map fun pattern =>
    .float (.ofPattern Number.double negative pattern)

/-- The float with a power of ten on top of the given one. Where that power is out of bounds the
number is out of range, unless the power makes it vanish. -/
def powered? (negative : Bool) (significand : Nat) (start : Int) (p : Power) : Option Numeral :=
  match readPower 0 p.digits.chars with
  | .ok (n, _) => float? negative significand (if p.sign.raises then start + n else start - n)
  | .error _ =>
    if significand ≠ 0 && p.sign.raises then none
    else some (.float (.ofPattern Number.double negative 0))

/-- The value of a number, if it is in range. -/
def value? (l : Literal) : Option Numeral :=
  match l.power with
  | some p => powered? l.negative l.scaled.1 l.scaled.2 p
  | none =>
    if l.fraction.isNone && l.head.2 = 0 then some (integerNumeral l.negative l.head.1)
    else float? l.negative l.scaled.1 l.scaled.2

end Literal

/-- Reading ends with a value and the text that is left, or with a number out of range. -/
def Yields {α : Type} (outcome : Outcome α) (value? : Option α) (t : List Char) : Prop :=
  match value? with
  | some n => outcome = .ok (n, t)
  | none => ∃ left, outcome = .error (.placed .numberOutOfRange left)

/-- The text does not go on with digits. -/
def NoDigit (t : List Char) : Prop := ∀ c r, t = c :: r → c.isDigit = false

theorem Stops.noDigit {t : List Char} (h : Stops t) : NoDigit t :=
  fun c r hc => (h c r hc).1

theorem noDigit_cons {c : Char} (hc : c.isDigit = false) (r : List Char) : NoDigit (c :: r) := by
  rintro c' r' ⟨⟩
  exact hc

theorem Digits.exists_cons (d : Digits) :
    ∃ c r, d.chars = c :: r ∧ c.isDigit = true ∧ ∀ c' ∈ r, c'.isDigit = true := by
  obtain ⟨chars, nonempty, digits⟩ := d
  cases chars with
  | nil => exact absurd rfl nonempty
  | cons c r =>
    obtain ⟨hc, hr⟩ := List.forall_mem_cons.1 digits
    exact ⟨c, r, rfl, hc, hr⟩

theorem isBlank_digit {c : Char} (hc : c.isDigit = true) : isBlank c = false := by
  rw [Bool.eq_false_iff]
  intro hb
  simp only [isBlank, Bool.or_eq_true, decide_eq_true_eq] at hb
  obtain ((rfl | rfl) | rfl) | rfl := hb <;> exact absurd hc (by decide)

theorem floatNumeral_yields (negative : Bool) (significand : Nat) (exponent : Int)
    (t : List Char) :
    Yields (floatNumeral negative significand exponent t)
      (Literal.float? negative significand exponent) t := by
  unfold floatNumeral Literal.float? Yields
  cases Number.scale? significand exponent with
  | none => exact ⟨_, rfl⟩
  | some pattern => rfl

/-- The digits of a power are read to their end, or up to where it leaves its bounds. -/
theorem readPower_digits {ds t : List Char} (hd : ∀ c ∈ ds, c.isDigit = true) (ht : NoDigit t)
    (power : Nat) :
    (∃ n, readPower power ds = .ok (n, []) ∧ readPower power (ds ++ t) = .ok (n, t)) ∨
      ∃ r, readPower power ds = .error r ∧ readPower power (ds ++ t) = .error (r ++ t) ∧
        ∀ c ∈ r, c.isDigit = true := by
  induction ds generalizing power with
  | nil =>
    refine .inl ⟨power, rfl, ?_⟩
    cases t with
    | nil => rfl
    | cons c r => simp only [List.nil_append, readPower, ht c r rfl, Bool.false_eq_true, if_false]
  | cons c ds ih =>
    obtain ⟨hc, hr⟩ := List.forall_mem_cons.1 hd
    simp only [List.cons_append, readPower, hc, if_true]
    by_cases hlt : power * 10 + digitValue c < exponentBound
    · simp only [if_pos hlt]
      exact ih hr _
    · simp only [if_neg hlt]
      exact .inr ⟨ds, rfl, rfl, hr⟩

theorem readUnsignedExponent_yields (negative : Bool) (significand : Nat) (start : Int) (p : Power)
    {t : List Char} (ht : NoDigit t) :
    Yields (readUnsignedExponent negative significand start p.sign.raises (p.digits.chars ++ t))
      (Literal.powered? negative significand start p) t := by
  obtain ⟨c, r, hcr, hc, hr⟩ := p.digits.exists_cons
  have hread := readPower_digits p.digits.digits ht 0
  unfold Literal.powered? readUnsignedExponent
  rw [hcr, List.cons_append] at hread ⊢
  simp only [hc, Bool.not_true, Bool.false_eq_true, if_false]
  obtain ⟨n, hn, hread⟩ | ⟨rest, hn, hread, hdigits⟩ := hread
  · rw [hn, hread]
    exact floatNumeral_yields _ _ _ _
  · rw [hn, hread]
    simp only
    split
    · exact ⟨_, rfl⟩
    · unfold Yields
      rw [dropWhile_append_stop hdigits ht]

theorem readExponent_yields (negative : Bool) (significand : Nat) (start : Int) (p : Power)
    {t : List Char} (ht : NoDigit t) :
    Yields (readExponent negative significand start (p.sign.chars ++ (p.digits.chars ++ t)))
      (Literal.powered? negative significand start p) t := by
  have h := readUnsignedExponent_yields negative significand start p ht
  cases hs : p.sign with
  | plus => rw [hs] at h; exact h
  | minus => rw [hs] at h; exact h
  | absent =>
    rw [hs] at h
    obtain ⟨c, r, hcr, hc, -⟩ := p.digits.exists_cons
    rw [hcr] at h ⊢
    unfold readExponent
    split
    · rename_i hn; cases hn; exact absurd hc (by decide)
    · rename_i hn; cases hn; exact absurd hc (by decide)
    · exact h

/-- What follows the digits of a fraction: the power, if there is one, and the text that is left. -/
theorem tail_noDigit (power : Option Power) {t : List Char} (ht : Stops t) :
    NoDigit (power.elim [] Power.chars ++ t) := by
  cases power with
  | none => exact ht.noDigit
  | some p =>
    apply noDigit_cons
    have hm := p.isMark
    simp only [isExponentMark, Bool.or_eq_true, decide_eq_true_eq] at hm
    rcases hm with h | h <;> rw [h] <;> decide

theorem readFraction_yields (negative : Bool) (significand : Nat) (start : Int) (f : Digits)
    (power : Option Power) {t : List Char} (ht : Stops t) :
    Yields (readFraction negative significand start (f.chars ++ (power.elim [] Power.chars ++ t)))
      (match power with
        | none => Literal.float? negative (absorb significand f.chars).1
            (start - (f.chars.length - (absorb significand f.chars).2.length : Nat))
        | some p => Literal.powered? negative (absorb significand f.chars).1
            (start - (f.chars.length - (absorb significand f.chars).2.length : Nat)) p) t := by
  have hne : f.chars.isEmpty = false := by simpa using f.nonempty
  unfold readFraction
  simp only [takeWhile_append_stop f.digits (tail_noDigit power ht),
    dropWhile_append_stop f.digits (tail_noDigit power ht), hne, Bool.false_eq_true, if_false]
  cases power with
  | none =>
    cases t with
    | nil => exact floatNumeral_yields _ _ _ _
    | cons c r =>
      simp only [Option.elim_none, List.nil_append, (ht c r rfl).2.2, Bool.false_eq_true, if_false]
      exact floatNumeral_yields _ _ _ _
  | some p =>
    simp only [Option.elim_some, Power.chars, List.cons_append, List.append_assoc, p.isMark,
      if_true]
    exact readExponent_yields _ _ _ _ ht.noDigit

namespace Literal

variable (l : Literal) {t : List Char}

theorem tail_append_noDigit (ht : Stops t) : NoDigit (l.tail ++ t) := by
  unfold tail
  cases l.fraction with
  | none => exact tail_noDigit l.power ht
  | some f => exact noDigit_cons (by decide) _

theorem readAfterInteger_yields (ht : Stops t) :
    Yields (readAfterInteger l.negative l.head.1 l.head.2 (l.tail ++ t)) l.value? t := by
  unfold tail value? scaled readAfterInteger
  cases l.fraction with
  | some f =>
    simp only [Option.elim_some, List.cons_append, List.append_assoc, if_true]
    have h := readFraction_yields l.negative l.head.1 l.head.2 f l.power ht
    cases hp : l.power with
    | none => rw [hp] at h; simpa using h
    | some p => rw [hp] at h; exact h
  | none =>
    cases l.power with
    | some p =>
      simp only [Option.elim_none, Option.elim_some, Power.chars, List.nil_append, List.cons_append,
        List.append_assoc, p.mark_ne_point, p.isMark, if_false, if_true]
      exact readExponent_yields _ _ _ _ ht.noDigit
    | none =>
      have hwhole : ∀ s, Yields (wholeNumeral l.negative l.head.1 l.head.2 s)
          (if l.head.2 = 0 then some (integerNumeral l.negative l.head.1)
            else float? l.negative l.head.1 l.head.2) s := by
        intro s
        unfold wholeNumeral
        split
        · rfl
        · exact floatNumeral_yields _ _ _ _
      simp only [Option.elim_none, List.nil_append, Option.isNone_none, Bool.true_and,
        decide_eq_true_eq]
      cases t with
      | nil => exact hwhole []
      | cons c r =>
        obtain ⟨-, hp, he⟩ := ht c r rfl
        simp only [hp, he, Bool.false_eq_true, if_false]
        exact hwhole (c :: r)

/-- A number is read to its end. -/
theorem readNumeral_yields (ht : Stops t) :
    Yields (readNumeral l.negative (l.unsigned ++ t)) l.value? t := by
  have hafter := l.readAfterInteger_yields ht
  have hrest := l.tail_append_noDigit ht
  have hzero := l.noLeadingZero
  unfold head at hafter
  obtain ⟨c, r, hcr, hc, hr⟩ := l.whole.exists_cons
  have hd : ∀ c' ∈ c :: r, c'.isDigit = true := List.forall_mem_cons.2 ⟨hc, hr⟩
  rw [unsigned, hcr, List.append_assoc]
  rw [hcr] at hafter hzero
  -- The reader takes a lone zero on a path of its own.
  by_cases h0 : c = '0'
  · obtain ⟨⟩ := hzero (by rw [h0]; rfl)
    have hlone : absorb 0 ['0'] = (0, []) := by decide
    rw [hlone] at hafter
    simp only [readNumeral, List.cons_append, List.nil_append, if_true]
    cases htail : l.tail ++ t with
    | nil => rw [htail] at hafter; exact hafter
    | cons d s =>
      rw [htail] at hafter
      simp only [hrest d s htail, Bool.false_eq_true, if_false]
      exact hafter
  · have htake := takeWhile_append_stop hd hrest
    have hdrop := dropWhile_append_stop hd hrest
    rw [List.cons_append] at htake hdrop
    simp only [readNumeral, List.cons_append, h0, hc, if_false, if_true, htake, hdrop]
    exact hafter

/-- Behind its sign a number begins with a digit. -/
theorem unsigned_cons : ∃ c r, l.unsigned = c :: r ∧ c.isDigit = true := by
  obtain ⟨c, r, hcr, hc, -⟩ := l.whole.exists_cons
  exact ⟨c, r ++ l.tail, by rw [unsigned, hcr, List.cons_append], hc⟩

theorem readNumber_eq (wanted : String) {s : List Char} (h : Blanks s (l.chars ++ t)) :
    readNumber wanted s = readNumeral l.negative (l.unsigned ++ t) := by
  obtain ⟨c, r, hcr, hc⟩ := l.unsigned_cons
  unfold chars at h
  unfold readNumber
  cases hn : l.negative with
  | true =>
    rw [hn] at h
    rw [Blanks.token h (by decide)]
    rfl
  | false =>
    rw [hn, hcr] at h
    rw [Blanks.token h (isBlank_digit hc), hcr]
    split
    · rename_i he; cases he
    · rename_i he; cases he; exact absurd hc (by decide)
    · rename_i he
      cases he
      rw [if_pos hc]
      rfl

theorem skipExponent_eq (p : Power) (ht : NoDigit t) :
    skipExponent (p.sign.chars ++ (p.digits.chars ++ t)) = .ok t := by
  obtain ⟨c, r, hcr, hc, hr⟩ := p.digits.exists_cons
  have hrest := dropWhile_append_stop hr ht
  unfold skipExponent
  rw [hcr]
  cases p.sign with
  | plus => simp [PowerSign.chars, hc, hrest]
  | minus => simp [PowerSign.chars, hc, hrest]
  | absent =>
    have hsign : ¬ (c = '+' ∨ c = '-') := by
      rintro (rfl | rfl) <;> exact absurd hc (by decide)
    simp [PowerSign.chars, hsign, hc, hrest]

theorem skipFraction_eq (f : Digits) (power : Option Power) (ht : Stops t) :
    skipFraction (f.chars ++ (power.elim [] Power.chars ++ t)) = .ok t := by
  have hne : f.chars.isEmpty = false := by simpa using f.nonempty
  unfold skipFraction
  simp only [takeWhile_append_stop f.digits (tail_noDigit power ht),
    dropWhile_append_stop f.digits (tail_noDigit power ht), hne, Bool.false_eq_true, if_false]
  cases power with
  | none =>
    cases t with
    | nil => rfl
    | cons c r => simp [(ht c r rfl).2.2]
  | some p =>
    simp only [Option.elim_some, Power.chars, List.cons_append, List.append_assoc, p.isMark,
      if_true]
    exact skipExponent_eq p ht.noDigit

theorem skipAfterInteger_eq (ht : Stops t) : skipAfterInteger (l.tail ++ t) = .ok t := by
  unfold tail
  cases l.fraction with
  | some f =>
    simp only [Option.elim_some, List.cons_append, List.append_assoc, skipAfterInteger, if_true]
    exact skipFraction_eq f l.power ht
  | none =>
    cases l.power with
    | some p =>
      simp only [Option.elim_none, Option.elim_some, Power.chars, List.nil_append, List.cons_append,
        List.append_assoc, skipAfterInteger, p.mark_ne_point, p.isMark, if_false, if_true]
      exact skipExponent_eq p ht.noDigit
    | none =>
      cases t with
      | nil => rfl
      | cons c r =>
        obtain ⟨-, hp, he⟩ := ht c r rfl
        simp [skipAfterInteger, hp, he]

/-- A number is skipped through its end. -/
theorem skipNumeral_eq (ht : Stops t) : skipNumeral (l.unsigned ++ t) = .ok t := by
  have hafter := l.skipAfterInteger_eq ht
  have hrest := l.tail_append_noDigit ht
  have hzero := l.noLeadingZero
  obtain ⟨c, r, hcr, hc, hr⟩ := l.whole.exists_cons
  rw [unsigned, hcr, List.append_assoc, List.cons_append]
  rw [hcr] at hzero
  unfold skipNumeral
  by_cases h0 : c = '0'
  · obtain ⟨⟩ := hzero (by rw [h0]; rfl)
    simp only [List.nil_append, if_true]
    cases htail : l.tail ++ t with
    | nil => rw [htail] at hafter; exact hafter
    | cons d s =>
      rw [htail] at hafter
      simp only [hrest d s htail, Bool.false_eq_true, if_false]
      exact hafter
  · simp only [h0, hc, if_false, if_true, dropWhile_append_stop hr hrest]
    exact hafter

/-- A number begins a value. -/
theorem opens (t : List Char) : Opens (l.chars ++ t) := by
  obtain ⟨c, r, hcr, hc⟩ := l.unsigned_cons
  unfold chars
  cases l.negative with
  | true => exact ⟨'-', l.unsigned ++ t, rfl, by decide, by decide⟩
  | false =>
    refine ⟨c, r ++ t, by simp [hcr], isBlank_digit hc, ?_⟩
    rintro rfl
    exact absurd hc (by decide)

end Literal

/-! ### The digits of natural numbers -/

/-- The digits of a number. -/
def Digits.ofNat (n : Nat) : Digits where
  chars := Number.decimalDigits n
  nonempty := Nat.toDigits_ne_nil
  digits := fun _ => Nat.isDigit_of_mem_toDigits (by decide) (by decide)

/-- Only the digits of zero begin with a zero. -/
theorem decimalDigits_head {n : Nat} (h : (Number.decimalDigits n).head? = some '0') : n = 0 := by
  induction n using Nat.strong_induction_on with
  | h n ih =>
    unfold Number.decimalDigits at h ih
    rw [Nat.toDigits_eq_if (by decide)] at h
    split at h
    · rename_i hn
      interval_cases n <;> first | rfl | exact absurd h (by decide)
    · rename_i hn
      obtain ⟨c, r, hcr⟩ := List.exists_cons_of_ne_nil (Nat.toDigits_ne_nil (n := n / 10) (b := 10))
      have hzero := ih (n / 10) (by omega)
      rw [hcr] at h hzero
      have := hzero h
      omega

theorem ofDigitChars_cons (c : Char) (ds : List Char) (n : Nat) :
    Nat.ofDigitChars 10 (c :: ds) n = Nat.ofDigitChars 10 ds (n * 10 + digitValue c) := by
  rw [Nat.ofDigitChars_cons, digitValue, Nat.mul_comm]

theorem le_ofDigitChars (ds : List Char) (n : Nat) : n ≤ Nat.ofDigitChars 10 ds n := by
  rw [Nat.ofDigitChars_eq_ofDigitChars_zero]
  have := Nat.le_mul_of_pos_left n (Nat.pow_pos (n := ds.length) (show 0 < 10 by decide))
  omega

/-- Digits that fit the significand are absorbed as the number that they write. -/
theorem absorb_eq {ds : List Char} {significand : Nat}
    (h : Nat.ofDigitChars 10 ds significand < significandBound) :
    absorb significand ds = (Nat.ofDigitChars 10 ds significand, []) := by
  induction ds generalizing significand with
  | nil => rfl
  | cons c ds ih =>
    rw [ofDigitChars_cons] at h ⊢
    rw [absorb, if_pos (Nat.lt_of_le_of_lt (le_ofDigitChars ds _) h)]
    exact ih h

/-- The digits of a power that is within bounds are read as the number that they write. -/
theorem readPower_eq {ds : List Char} (hd : ∀ c ∈ ds, c.isDigit = true) {power : Nat}
    (h : Nat.ofDigitChars 10 ds power < exponentBound) :
    readPower power ds = .ok (Nat.ofDigitChars 10 ds power, []) := by
  induction ds generalizing power with
  | nil => rfl
  | cons c ds ih =>
    obtain ⟨hc, hr⟩ := List.forall_mem_cons.1 hd
    rw [ofDigitChars_cons] at h ⊢
    rw [readPower, if_pos hc, if_pos (Nat.lt_of_le_of_lt (le_ofDigitChars ds _) h)]
    exact ih hr h

theorem ofDigitChars_decimalDigits (n : Nat) :
    Nat.ofDigitChars 10 (Number.decimalDigits n) 0 = n :=
  Nat.ofDigitChars_toDigits (by decide) (by decide)

theorem absorb_decimalDigits {n : Nat} (h : n < significandBound) :
    absorb 0 (Number.decimalDigits n) = (n, []) := by
  have hn := ofDigitChars_decimalDigits n
  rw [absorb_eq (hn.symm ▸ h), hn]

/-- The number that is written with its digits alone. -/
def Literal.ofNat (n : Nat) : Literal where
  negative := false
  whole := .ofNat n
  noLeadingZero := by
    intro h
    rw [decimalDigits_head h]
    rfl
  fraction := none
  power := none

theorem Literal.chars_ofNat (n : Nat) : (Literal.ofNat n).chars = Number.decimalDigits n := by
  simp [chars, unsigned, tail, ofNat, Digits.ofNat]

theorem Literal.value?_ofNat {n : Nat} (h : n < significandBound) :
    (Literal.ofNat n).value? = some (.unsigned n) := by
  have hhead : (Literal.ofNat n).head = (n, 0) := by
    show ((absorb 0 (Number.decimalDigits n)).1, (absorb 0 (Number.decimalDigits n)).2.length) = _
    rw [absorb_decimalDigits h]
    rfl
  show (if true && decide ((Literal.ofNat n).head.2 = 0) then _ else _) = _
  rw [hhead]
  rfl

end DecoderExport.Json
