import DecoderExport.Proofs.Literal
import Mathlib.Algebra.Order.Field.Rat
import Mathlib.Tactic.FieldSimp
import Mathlib.Tactic.NormNum

/-!
# The numbers that decimals and literals write

A decimal stands for an exact rational number, and so does a literal, whatever a reader with a
significand of bounded width makes of it. A text is the text of one literal only, so a text writes
one number at most.
-/

namespace DecoderExport

/-- The number that a decimal stands for. -/
def Number.Decimal.value (d : Number.Decimal) : ℚ := d.digits * 10 ^ d.exponent

namespace Json

/-- The power of ten that is written. -/
def Power.exponent (p : Power) : Int :=
  if p.sign.raises then (Nat.ofDigitChars 10 p.digits.chars 0 : Int)
  else -(Nat.ofDigitChars 10 p.digits.chars 0 : Int)

namespace Literal

/-- All digits of a number, before the point and behind it. -/
def allDigits (l : Literal) : List Char := l.whole.chars ++ l.fraction.elim [] Digits.chars

/-- The power of ten of the last digit. -/
def lastPlace (l : Literal) : Int :=
  l.power.elim 0 Power.exponent - l.fraction.elim 0 (·.chars.length)

/-- The number that a literal writes, but for its sign. -/
def magnitude (l : Literal) : ℚ := Nat.ofDigitChars 10 l.allDigits 0 * 10 ^ l.lastPlace

/-- A literal writes a decimal also with zeros behind its digits. -/
theorem magnitude_eq {l : Literal} {d : Number.Decimal} (zeros : Nat)
    (hdigits : Nat.ofDigitChars 10 l.allDigits 0 = 10 ^ zeros * d.digits)
    (hplace : l.lastPlace = d.exponent - zeros) : l.magnitude = d.value := by
  rw [magnitude, hdigits, hplace, zpow_sub₀ (by norm_num), zpow_natCast, Number.Decimal.value]
  push_cast
  field_simp

end Literal

/-! ### One literal for a text -/

theorem Digits.ext_chars {d e : Digits} (h : d.chars = e.chars) : d = e := by
  cases d
  cases e
  cases h
  rfl

/-- Digits end where no digit follows, so the text tells them from what follows. -/
theorem Digits.append_inj {d e : Digits} {s t : List Char} (hs : NoDigit s) (ht : NoDigit t)
    (h : d.chars ++ s = e.chars ++ t) : d = e ∧ s = t := by
  have htake := congrArg (List.takeWhile Char.isDigit) h
  have hdrop := congrArg (List.dropWhile Char.isDigit) h
  rw [takeWhile_append_stop d.digits hs, takeWhile_append_stop e.digits ht] at htake
  rw [dropWhile_append_stop d.digits hs, dropWhile_append_stop e.digits ht] at hdrop
  exact ⟨ext_chars htake, hdrop⟩

theorem PowerSign.chars_inj {s t : PowerSign} (h : s.chars = t.chars) : s = t := by
  cases s <;> cases t <;> first | rfl | simp [chars] at h

/-- The sign of a power ends with the first digit. -/
theorem PowerSign.takeWhile_chars (s : PowerSign) (d : Digits) :
    (s.chars ++ d.chars).takeWhile (!·.isDigit) = s.chars := by
  obtain ⟨c, r, hcr, hc, -⟩ := d.exists_cons
  cases s <;> simp [chars, hcr, hc]

theorem Power.chars_inj {p q : Power} (h : p.chars = q.chars) : p = q := by
  obtain ⟨mark, isMark, sign, digits⟩ := p
  obtain ⟨mark', isMark', sign', digits'⟩ := q
  obtain ⟨rfl, hrest⟩ := List.cons.inj h
  have hsign := congrArg (List.takeWhile (!·.isDigit)) hrest
  rw [PowerSign.takeWhile_chars, PowerSign.takeWhile_chars] at hsign
  obtain rfl := PowerSign.chars_inj hsign
  obtain rfl := Digits.ext_chars (List.append_cancel_left hrest)
  rfl

namespace Literal

theorem power_inj {p q : Option Power} (h : p.elim [] Power.chars = q.elim [] Power.chars) :
    p = q := by
  cases p with
  | none =>
    cases q with
    | none => rfl
    | some q => cases h
  | some p =>
    cases q with
    | none => cases h
    | some q => rw [Power.chars_inj h]

theorem tail_inj {l m : Literal} (h : l.tail = m.tail) :
    l.fraction = m.fraction ∧ l.power = m.power := by
  have hpower (l : Literal) : NoDigit (l.power.elim [] Power.chars) := by
    simpa using tail_noDigit l.power stops_nil
  -- A fraction begins with the point, and a power does not.
  have hpoint {p : Option Power} {s : List Char} : '.' :: s ≠ p.elim [] Power.chars := by
    cases p with
    | none => exact nofun
    | some p => exact fun h => p.mark_ne_point (List.cons.inj h).1.symm
  unfold tail at h
  cases hl : l.fraction with
  | none =>
    cases hm : m.fraction with
    | none =>
      rw [hl, hm] at h
      exact ⟨rfl, power_inj h⟩
    | some e =>
      rw [hl, hm] at h
      exact absurd h.symm hpoint
  | some d =>
    cases hm : m.fraction with
    | none =>
      rw [hl, hm] at h
      exact absurd h hpoint
    | some e =>
      rw [hl, hm] at h
      obtain ⟨rfl, hrest⟩ := Digits.append_inj (hpower l) (hpower m) (List.cons.inj h).2
      exact ⟨rfl, power_inj hrest⟩

/-- The sign is the only character of a literal before its first digit. -/
theorem takeWhile_chars (l : Literal) :
    l.chars.takeWhile (!·.isDigit) = if l.negative then ['-'] else [] := by
  obtain ⟨c, r, hcr, hc⟩ := l.unsigned_cons
  unfold chars
  rw [hcr]
  cases l.negative <;> simp [hc]

/-- The text of a literal tells what it is. -/
theorem chars_inj {l m : Literal} (h : l.chars = m.chars) : l = m := by
  have hsign : l.negative = m.negative := by
    have hhead := congrArg (List.takeWhile (!·.isDigit)) h
    rw [takeWhile_chars, takeWhile_chars] at hhead
    revert hhead
    cases l.negative <;> cases m.negative <;> decide
  have hunsigned : l.unsigned = m.unsigned := by
    unfold chars at h
    rw [hsign] at h
    exact List.append_cancel_left h
  have hstop (l : Literal) : NoDigit l.tail := by
    simpa using l.tail_append_noDigit stops_nil
  obtain ⟨hwhole, htail⟩ := Digits.append_inj (hstop l) (hstop m) hunsigned
  obtain ⟨hfraction, hpower⟩ := tail_inj htail
  cases l
  cases m
  simp only at *
  subst hsign hwhole hfraction hpower
  rfl

end Literal

/-- A text writes a number with a sign. -/
def Denotes (text : String) (negative : Bool) (x : ℚ) : Prop :=
  ∃ l : Literal, text.toList = l.chars ∧ l.negative = negative ∧ l.magnitude = x

/-- A text writes one number at most. -/
theorem Denotes.unique {text : String} {n m : Bool} {x y : ℚ} (hx : Denotes text n x)
    (hy : Denotes text m y) : n = m ∧ x = y := by
  obtain ⟨l, hl, rfl, rfl⟩ := hx
  obtain ⟨l', hl', rfl, rfl⟩ := hy
  obtain rfl := Literal.chars_inj (hl.symm.trans hl')
  exact ⟨rfl, rfl⟩

end Json

end DecoderExport
