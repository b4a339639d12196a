import DecoderExport.Proofs.NearestValue
import DecoderExport.Proofs.PrintedNumber
import Mathlib.Algebra.Order.Field.Power
import Mathlib.Algebra.Order.Floor.Semifield
import Mathlib.Data.Rat.Floor

/-!
# The shortest decimal

`Decimal.shortest` looks for a decimal that rounds back to a pattern, place by place from the leading
digit on. At each place there is such a decimal exactly if one of the two neighbours of the value
rounds back, so the first place at which the search succeeds has the fewest digits of all decimals
that round back.
-/

namespace DecoderExport.Number

/-! ### Decimals as numbers -/

namespace Decimal

/-- How many digits a decimal needs: those behind the last one that is not zero do not count. -/
def places (d : Decimal) : Nat := (decimalDigits d.trim.digits).length

theorem value_trim (d : Decimal) : d.trim.value = d.value := by
  fun_induction trim d with
  | case1 d hd ih =>
    rw [ih, value, value, zpow_add_one₀ (by norm_num)]
    have hten : d.digits / 10 * 10 = d.digits := Nat.div_mul_cancel (Nat.dvd_of_mod_eq_zero hd.2)
    have hcast : ((d.digits / 10 : Nat) : ℚ) * 10 = d.digits := by exact_mod_cast hten
    rw [← hcast]
    ring
  | case2 d hd => rfl

theorem trim_trim (d : Decimal) : d.trim.trim = d.trim := by
  fun_induction trim d with
  | case1 d hd ih => exact ih
  | case2 d hd => rw [trim, dif_neg hd]

theorem digits_trim_le (d : Decimal) : d.trim.digits ≤ d.digits := by
  fun_induction trim d with
  | case1 d hd ih => exact ih.trans (Nat.div_le_self _ _)
  | case2 d hd => exact Nat.le_refl _

theorem places_trim (d : Decimal) : d.trim.places = d.places := by
  rw [places, trim_trim, places]

theorem places_pos (d : Decimal) : 0 < d.places := decimalDigits_length_pos _

theorem digits_trim_lt (d : Decimal) : d.trim.digits < 10 ^ d.places :=
  (Nat.length_toDigits_le_iff (by decide) d.places_pos).1 (Nat.le_refl _)

theorem places_le {d : Decimal} {k : Nat} (h : d.digits ≤ 10 ^ (k + 1)) : d.places ≤ k + 1 := by
  rcases Nat.eq_or_lt_of_le h with h | h
  · -- A power of ten needs one digit only.
    have hpow := Nat.pow_pos (n := k + 1) (show 0 < 10 by decide)
    have hten : d.digits ≠ 0 ∧ d.digits % 10 = 0 := by
      rw [h]
      exact ⟨by omega, by rw [Nat.pow_succ, Nat.mul_mod_left]⟩
    rw [places, trim, dif_pos hten]
    apply decimalDigits_length_le (Nat.succ_pos k)
    calc _ ≤ d.digits / 10 := digits_trim_le _
      _ < _ := by omega
  · exact decimalDigits_length_le (Nat.succ_pos k) (Nat.lt_of_le_of_lt d.digits_trim_le h)

end Decimal

/-- A power of ten as a quotient of two whole powers. -/
theorem ten_zpow (exponent : Int) :
    (10 : ℚ) ^ exponent = 10 ^ exponent.toNat / 10 ^ (-exponent).toNat := by
  rcases Int.le_total 0 exponent with h | h
  · obtain ⟨n, rfl⟩ := Int.eq_ofNat_of_zero_le h
    simp
  · obtain ⟨n, hn⟩ := Int.eq_ofNat_of_zero_le (Int.neg_nonneg_of_nonpos h)
    obtain rfl : exponent = -n := by omega
    simp

/-! ### Spans -/

namespace Format

variable {f : Format}

theorem span_low (f : Format) (pattern : Nat) :
    (f.span (pattern + 1)).low = 2 * (f.units pattern + f.units (pattern + 1)) := by
  have hsucc := f.units_succ pattern
  have hgap : (if (pattern + 1) % f.leading = 0 && 1 < (pattern + 1) / f.leading
      then Nat.pow 2 ((pattern + 1) / f.leading - 1)
      else 2 * Nat.pow 2 ((pattern + 1) / f.leading - 1)) = 2 * 2 ^ f.place pattern := by
    have hstep : (pattern + 1) / f.leading =
        pattern / f.leading + if (pattern + 1) % f.leading = 0 then 1 else 0 := by
      simp only [← Nat.dvd_iff_mod_eq_zero]
      exact Nat.succ_div
    unfold place
    rw [hstep]
    by_cases hcarry : (pattern + 1) % f.leading = 0
    · cases pattern / f.leading with
      | zero => simp [hcarry]
      | succ k => simp [hcarry, Nat.pow_succ, Nat.mul_comm]
    · simp [hcarry]
  show 4 * f.units (pattern + 1) - _ = _
  rw [hgap]
  omega

theorem span_high (f : Format) (pattern : Nat) :
    (f.span pattern).high = 2 * (f.units pattern + f.units (pattern + 1)) := by
  rw [units_succ]
  show 4 * f.units pattern + 2 * 2 ^ f.place pattern = _
  omega

/-- The span of a pattern holds the numbers that are rounded to it. -/
theorem holds_iff {pattern : Nat} (hp : pattern ≠ 0) (hf : pattern < f.infinity) (num : Nat)
    {den : Nat} (hd : 0 < den) :
    (f.span pattern).holds num den = true ↔
      f.Nearest (num / den / (4 * 2 ^ f.unitPower)) pattern := by
  obtain ⟨p, rfl⟩ : ∃ p, p + 1 = pattern := ⟨pattern - 1, by omega⟩
  have hden : (0 : ℚ) < den := by exact_mod_cast hd
  have hquarter : (0 : ℚ) < 4 * 2 ^ f.unitPower := by positivity
  have hlow : ((f.span (p + 1)).low : ℚ) = f.middle p * (4 * 2 ^ f.unitPower) := by
    rw [span_low, middle_eq]
    push_cast
    field_simp
    ring
  have hhigh : ((f.span (p + 1)).high : ℚ) = f.middle (p + 1) * (4 * 2 ^ f.unitPower) := by
    rw [span_high, middle_eq]
    push_cast
    field_simp
    ring
  generalize hx : (num / den / (4 * 2 ^ f.unitPower) : ℚ) = x
  have hnum : (num : ℚ) = x * (4 * 2 ^ f.unitPower) * den := by
    rw [← hx]
    field_simp
  have hscale {a b : ℚ} : a * (4 * 2 ^ f.unitPower) * den ≤ b * (4 * 2 ^ f.unitPower) * den ↔
      a ≤ b := by
    rw [mul_le_mul_iff_left₀ hden, mul_le_mul_iff_left₀ hquarter]
  have hle : (f.span (p + 1)).low * den ≤ num ↔ f.middle p ≤ x := by
    rw [← Nat.cast_le (α := ℚ), Nat.cast_mul, hlow, hnum, hscale]
  have hge : num ≤ (f.span (p + 1)).high * den ↔ x ≤ f.middle (p + 1) := by
    rw [← Nat.cast_le (α := ℚ), Nat.cast_mul, hhigh, hnum, hscale]
  have hlt : (f.span (p + 1)).low * den < num ↔ f.middle p < x := by
    rw [← Nat.cast_lt (α := ℚ), ← not_le, ← not_le, Nat.cast_mul, hlow, hnum, hscale]
  have hgt : num < (f.span (p + 1)).high * den ↔ x < f.middle (p + 1) := by
    rw [← Nat.cast_lt (α := ℚ), ← not_le, ← not_le, Nat.cast_mul, hhigh, hnum, hscale]
  have hclosed : (f.span (p + 1)).closed = decide ((p + 1) % 2 = 0) := rfl
  rw [nearest_iff hf.le, Span.holds, hclosed]
  by_cases heven : (p + 1) % 2 = 0
  · simp [heven, hle, hge, hf]
  · simp only [heven, decide_false, Bool.false_eq_true, if_false, Bool.and_eq_true,
      decide_eq_true_eq, hlt, hgt, hf, true_imp_iff, Nat.add_right_cancel_iff, forall_eq, imp_false,
      ← lt_iff_le_and_ne]

end Format

/-! ### The decimal at a place -/

namespace Decimal

variable {tie : Tie} {f : Format} {pattern : Nat} {exponent : Int} {d : Decimal}

theorem holds_iff (hp : pattern ≠ 0) (hf : pattern < f.infinity) (d : Decimal) :
    (f.span pattern).holds (d.digits * (4 * Nat.pow 2 f.unitPower * Nat.pow 10 d.exponent.toNat))
      (Nat.pow 10 (-d.exponent).toNat) = true ↔ f.Nearest d.value pattern := by
  have hup : 0 < Nat.pow 10 (-d.exponent).toNat := Nat.pow_pos (by decide)
  rw [Format.holds_iff hp hf _ hup, value, ten_zpow]
  simp only [Nat.pow_eq]
  push_cast
  field_simp

theorem below_eq (f : Format) (pattern : Nat) (exponent : Int) :
    below f pattern exponent = ⌊f.value pattern / 10 ^ exponent⌋₊ := by
  rw [below, ← Nat.floor_div_eq_div (K := ℚ), Format.value, ten_zpow]
  congr 1
  simp only [Nat.pow_eq, Format.span]
  push_cast
  field_simp

theorem value_below_le (f : Format) (pattern : Nat) (exponent : Int) :
    (⟨below f pattern exponent, exponent⟩ : Decimal).value ≤ f.value pattern := by
  have hpow : (0 : ℚ) < 10 ^ exponent := by positivity
  rw [value, below_eq, ← le_div_iff₀ hpow]
  exact Nat.floor_le (div_nonneg (f.value_nonneg _) hpow.le)

theorem lt_value_above (f : Format) (pattern : Nat) (exponent : Int) :
    f.value pattern < (⟨below f pattern exponent + 1, exponent⟩ : Decimal).value := by
  have hpow : (0 : ℚ) < 10 ^ exponent := by positivity
  rw [value, below_eq, ← div_lt_iff₀ hpow]
  push_cast
  exact Nat.lt_floor_add_one _

/-- If any decimal at a place rounds back, one of the two next to the value does. -/
theorem neighbour_nearest {n : Nat} (h : f.Nearest (value ⟨n, exponent⟩) pattern) :
    f.Nearest (value ⟨below f pattern exponent, exponent⟩) pattern ∨
      f.Nearest (value ⟨below f pattern exponent + 1, exponent⟩) pattern := by
  have hpow : (0 : ℚ) < 10 ^ exponent := by positivity
  rcases Nat.lt_or_ge (below f pattern exponent) n with hlt | hle
  · right
    refine h.between (.inr ⟨(lt_value_above f pattern exponent).le, ?_⟩)
    exact mul_le_mul_of_nonneg_right (by exact_mod_cast hlt) hpow.le
  · left
    refine h.between (.inl ⟨?_, value_below_le f pattern exponent⟩)
    exact mul_le_mul_of_nonneg_right (by exact_mod_cast hle) hpow.le

/-- At a place some decimal is found if any decimal there rounds back. -/
theorem atPlace?_isSome_iff (hp : pattern ≠ 0) (hf : pattern < f.infinity) :
    (atPlace? tie f pattern exponent).isSome ↔ ∃ n, f.Nearest (value ⟨n, exponent⟩) pattern := by
  have hlow := holds_iff hp hf ⟨below f pattern exponent, exponent⟩
  have hhigh := holds_iff hp hf ⟨below f pattern exponent + 1, exponent⟩
  constructor
  · intro h
    obtain ⟨d, hd⟩ := Option.isSome_iff_exists.1 h
    obtain ⟨rfl, -, hholds⟩ := atPlace?_spec hd
    exact ⟨d.digits, (holds_iff hp hf d).1 hholds⟩
  · rintro ⟨n, hn⟩
    have hnear := neighbour_nearest hn
    rw [← hlow, ← hhigh] at hnear
    unfold below at hnear
    unfold atPlace?
    simp only
    split
    · rename_i hlow hhigh
      rw [hlow, hhigh] at hnear
      simp at hnear
    · rfl
    · rfl
    · split
      · rfl
      · split
        · rfl
        · split <;> rfl

theorem atPlace?_nearest (hp : pattern ≠ 0) (hf : pattern < f.infinity)
    (h : atPlace? tie f pattern exponent = some d) : f.Nearest d.value pattern := by
  obtain ⟨rfl, -, hholds⟩ := atPlace?_spec h
  exact (holds_iff hp hf d).1 hholds

/-- Where what is left is one half of a unit at the place, the value is just in the middle. -/
theorem value_eq_halfway (h : 2 * ((f.span pattern).value * Nat.pow 10 (-exponent).toNat %
      (4 * Nat.pow 2 f.unitPower * Nat.pow 10 exponent.toNat)) =
        4 * Nat.pow 2 f.unitPower * Nat.pow 10 exponent.toNat) :
    f.value pattern = (below f pattern exponent + 1 / 2) * 10 ^ exponent := by
  have hsplit := Nat.div_add_mod ((f.span pattern).value * Nat.pow 10 (-exponent).toNat)
    (4 * Nat.pow 2 f.unitPower * Nat.pow 10 exponent.toNat)
  change _ * below f pattern exponent + _ = _ at hsplit
  have hdouble : 2 * (4 * f.units pattern * 10 ^ (-exponent).toNat) =
      4 * 2 ^ f.unitPower * 10 ^ exponent.toNat * (2 * below f pattern exponent + 1) := by
    change 2 * ((f.span pattern).value * Nat.pow 10 (-exponent).toNat) = 4 * Nat.pow 2 _ *
      Nat.pow 10 _ * _
    rw [Nat.mul_add, Nat.mul_one, Nat.mul_left_comm _ 2]
    omega
  have hcast : (2 * (4 * f.units pattern * 10 ^ (-exponent).toNat) : ℚ) =
      4 * 2 ^ f.unitPower * 10 ^ exponent.toNat * (2 * below f pattern exponent + 1) := by
    exact_mod_cast hdouble
  rw [Format.value, ten_zpow]
  field_simp
  linarith

/-- At one place the two tie rules find the same decimal, or the two next to a value that is just in
the middle. -/
theorem atPlace?_tie {e : Decimal} (hd : atPlace? .away f pattern exponent = some d)
    (he : atPlace? .even f pattern exponent = some e) :
    d = e ∨ ∃ n, n % 2 = 0 ∧ d = ⟨n + 1, exponent⟩ ∧ e = ⟨n, exponent⟩ ∧
      f.value pattern = (n + 1 / 2) * 10 ^ exponent := by
  have hvalue := @value_eq_halfway f pattern exponent
  unfold below at hvalue
  unfold atPlace? at hd he
  simp only at hd he
  generalize (f.span pattern).value * Nat.pow 10 (-exponent).toNat /
      (4 * Nat.pow 2 f.unitPower * Nat.pow 10 exponent.toNat) = below at hd he hvalue
  generalize hrest : 2 * ((f.span pattern).value * Nat.pow 10 (-exponent).toNat %
      (4 * Nat.pow 2 f.unitPower * Nat.pow 10 exponent.toNat)) = rest at hd he hvalue
  generalize 4 * Nat.pow 2 f.unitPower * Nat.pow 10 exponent.toNat = unit at *
  split at hd
  · cases hd
  · rename_i hl hh
    rw [hl, hh] at he
    exact .inl (Option.some.inj (hd.symm.trans he))
  · rename_i hl hh
    rw [hl, hh] at he
    exact .inl (Option.some.inj (hd.symm.trans he))
  · rename_i hl hh
    rw [hl, hh] at he
    simp only at he
    by_cases hlt : rest < unit
    · rw [if_pos hlt] at hd he
      exact .inl (Option.some.inj (hd.symm.trans he))
    · by_cases hgt : unit < rest
      · rw [if_neg hlt, if_pos hgt] at hd he
        exact .inl (Option.some.inj (hd.symm.trans he))
      · rw [if_neg hlt, if_neg hgt] at hd he
        obtain rfl := Option.some.inj hd
        obtain rfl := Option.some.inj he
        rcases Nat.mod_two_eq_zero_or_one below with hmod | hmod
        · exact .inr ⟨below, hmod, rfl, by rw [hmod, Nat.add_zero], hvalue (by omega)⟩
        · exact .inl (by rw [hmod])

end Decimal

/-! ### The leading place -/

theorem decimalDigits_lt (n : Nat) : n < 10 ^ (decimalDigits n).length :=
  (Nat.length_toDigits_le_iff (by decide) (decimalDigits_length_pos n)).1 (Nat.le_refl _)

theorem le_decimalDigits {n : Nat} (h : n ≠ 0) : 10 ^ ((decimalDigits n).length - 1) ≤ n := by
  have hpos := decimalDigits_length_pos n
  by_contra hlt
  rcases Nat.eq_zero_or_pos ((decimalDigits n).length - 1) with hzero | hk
  · rw [hzero] at hlt
    omega
  · have := decimalDigits_length_le hk (Nat.lt_of_not_le hlt)
    omega

/-- The leading place of a quotient is that of its leading digit. -/
theorem leadingExponent_spec {num den : Nat} (hn : 0 < num) (hd : 0 < den) :
    (10 : ℚ) ^ leadingExponent num den ≤ num / den ∧
      (num / den : ℚ) < 10 ^ (leadingExponent num den + 1) := by
  have hnum : (0 : ℚ) < num := by exact_mod_cast hn
  have hden : (0 : ℚ) < den := by exact_mod_cast hd
  unfold leadingExponent
  split
  · rename_i hle
    obtain ⟨k, hk⟩ : ∃ k, (decimalDigits (num / den)).length = k + 1 :=
      ⟨_, (Nat.sub_add_cancel (decimalDigits_length_pos _)).symm⟩
    have hlow := le_decimalDigits (Nat.div_pos hle hd).ne'
    have hhigh := decimalDigits_lt (num / den)
    rw [hk] at hlow hhigh ⊢
    rw [Nat.add_sub_cancel, Nat.le_div_iff_mul_le hd] at hlow
    rw [Nat.div_lt_iff_lt_mul hd] at hhigh
    rw [show ((k + 1 : Nat) : Int) - 1 = (k : Int) by omega, le_div_iff₀ hden, div_lt_iff₀ hden]
    exact ⟨by exact_mod_cast hlow, by exact_mod_cast hhigh⟩
  · rename_i hlt
    obtain ⟨k, hk⟩ : ∃ k, (decimalDigits (den / num)).length = k + 1 :=
      ⟨_, (Nat.sub_add_cancel (decimalDigits_length_pos _)).symm⟩
    have hlow := le_decimalDigits (Nat.div_pos (Nat.le_of_not_le hlt) hn).ne'
    have hhigh := decimalDigits_lt (den / num)
    simp only
    rw [hk] at hlow hhigh ⊢
    rw [Nat.add_sub_cancel, Nat.le_div_iff_mul_le hn] at hlow
    rw [Nat.div_lt_iff_lt_mul hn] at hhigh
    have hlow : (10 ^ k * num : ℚ) ≤ den := by exact_mod_cast hlow
    have hhigh : (den : ℚ) < 10 ^ (k + 1) * num := by exact_mod_cast hhigh
    have hpow : (0 : ℚ) < 10 ^ k := by positivity
    split
    · rename_i hexact
      have hexact : (den : ℚ) ≤ num * 10 ^ k := by exact_mod_cast hexact
      rw [show 1 - ((k + 1 : Nat) : Int) = -(k : Int) by omega, zpow_add_one₀ (by norm_num),
        zpow_neg, zpow_natCast, le_div_iff₀ hden, div_lt_iff₀ hden]
      constructor
      · rw [inv_mul_le_iff₀ hpow]
        linarith
      · rw [mul_assoc, lt_inv_mul_iff₀ hpow]
        linarith
    · rename_i hexact
      have hexact : (num * 10 ^ k : ℚ) < den := by exact_mod_cast Nat.lt_of_not_le hexact
      rw [show -((k + 1 : Nat) : Int) + 1 = -(k : Int) by omega, zpow_neg, zpow_neg, zpow_natCast,
        zpow_natCast, le_div_iff₀ hden, div_lt_iff₀ hden]
      constructor
      · rw [inv_mul_le_iff₀ (by positivity)]
        linarith
      · rw [lt_inv_mul_iff₀ hpow]
        linarith

/-- The place of the leading digit of a value. -/
def Format.leadingPlace (f : Format) (pattern : Nat) : Int :=
  leadingExponent (f.units pattern) (Nat.pow 2 f.unitPower)

theorem Format.leadingPlace_spec (f : Format) {pattern : Nat} (hp : pattern ≠ 0) :
    (10 : ℚ) ^ f.leadingPlace pattern ≤ f.value pattern ∧
      f.value pattern < 10 ^ (f.leadingPlace pattern + 1) := by
  have hunits : 0 < f.units pattern :=
    Nat.lt_of_lt_of_le (Nat.two_pow_pos _) (f.units_pos hp)
  simpa [value, leadingPlace] using leadingExponent_spec hunits (Nat.two_pow_pos f.unitPower)

/-! ### The search -/

/-- A search that would succeed at a place succeeds there or before. -/
theorem findSome?_range_le {α : Type} {g : Nat → Option α} {k n : Nat} (hk : k < n)
    (h : (g k).isSome) : ∃ m ≤ k, ∃ d, g m = some d ∧ (List.range n).findSome? g = some d := by
  induction n with
  | zero => exact absurd hk (Nat.not_lt_zero k)
  | succ n ih =>
    rw [List.range_succ, List.findSome?_append]
    cases hfound : (List.range n).findSome? g with
    | some d =>
      obtain ⟨m, hm, hd⟩ := List.exists_of_findSome?_eq_some hfound
      rcases Nat.lt_or_ge k n with hlt | hge
      · obtain ⟨m, hm, d', hd', hsame⟩ := ih hlt
        exact ⟨m, hm, d', hd', by rw [← hsame, hfound]; rfl⟩
      · exact ⟨m, by have := List.mem_range.1 hm; omega, d, hd, rfl⟩
    | none =>
      rcases Nat.lt_or_ge k n with hlt | hge
      · obtain ⟨m, -, d, -, hsome⟩ := ih hlt
        rw [hfound] at hsome
        cases hsome
      · obtain rfl : k = n := by omega
        obtain ⟨d, hd⟩ := Option.isSome_iff_exists.1 h
        exact ⟨k, Nat.le_refl k, d, hd, by simp [hd]⟩

/-- Two searches that succeed at the same places end at one place. -/
theorem findSome?_both {α β : Type} {g h : α → Option β}
    (hsame : ∀ a, (g a).isSome = (h a).isSome) (l : List α) :
    l.findSome? g = none ∧ l.findSome? h = none ∨
      ∃ a d e, g a = some d ∧ h a = some e ∧ l.findSome? g = some d ∧ l.findSome? h = some e := by
  induction l with
  | nil => exact .inl ⟨rfl, rfl⟩
  | cons a l ih =>
    have ha := hsame a
    rw [List.findSome?_cons, List.findSome?_cons]
    cases hg : g a with
    | some d =>
      cases hh : h a with
      | some e => exact .inr ⟨a, d, e, hg, hh, rfl, rfl⟩
      | none =>
        rw [hg, hh] at ha
        cases ha
    | none =>
      cases hh : h a with
      | some e =>
        rw [hg, hh] at ha
        cases ha
      | none => exact ih

namespace Decimal

variable {f : Format} {pattern : Nat} {d e : Decimal}

/-- A decimal of few digits that rounds back shows that one is found at a place close to the leading
one. -/
theorem exists_place (hp : pattern ≠ 0) (hd : f.Nearest d.value pattern) {k : Nat}
    (hk : d.places ≤ k + 1) :
    ∃ n ≤ k, ∃ m, f.Nearest (value ⟨m, f.leadingPlace pattern - (n : Int)⟩) pattern := by
  obtain ⟨hlow, -⟩ := f.leadingPlace_spec hp
  generalize f.leadingPlace pattern = l at hlow
  rcases lt_or_ge d.value (10 ^ l) with hlt | hge
  · -- The power of ten lies between the decimal and the value.
    have hone : value ⟨1, l - (0 : Nat)⟩ = 10 ^ l := by simp [value]
    refine ⟨0, Nat.zero_le k, 1, ?_⟩
    rw [hone]
    exact hd.between (.inl ⟨hlt.le, hlow⟩)
  · have hdigits : (d.trim.digits : ℚ) < 10 ^ (k + 1) := by
      have := Nat.lt_of_lt_of_le d.digits_trim_lt (Nat.pow_le_pow_right (by decide) hk)
      exact_mod_cast this
    rw [← value_trim] at hge hd
    have hplace : l < k + 1 + d.trim.exponent := by
      rw [← zpow_lt_zpow_iff_right₀ (show (1 : ℚ) < 10 by norm_num)]
      calc (10 : ℚ) ^ l ≤ d.trim.digits * 10 ^ d.trim.exponent := hge
        _ < 10 ^ (k + 1) * 10 ^ d.trim.exponent :=
          mul_lt_mul_of_pos_right hdigits (by positivity)
        _ = 10 ^ (k + 1 + d.trim.exponent : Int) := by
          rw [zpow_add₀ (by norm_num)]
          norm_cast
    obtain ⟨j, hj⟩ := Int.eq_ofNat_of_zero_le (show 0 ≤ d.trim.exponent - (l - k) by omega)
    refine ⟨k, Nat.le_refl k, d.trim.digits * 10 ^ j, ?_⟩
    have hsame : value ⟨d.trim.digits * 10 ^ j, l - k⟩ = d.trim.value := by
      rw [value, value, show d.trim.exponent = j + (l - k) by omega, zpow_add₀ (by norm_num),
        zpow_natCast]
      push_cast
      ring
    rwa [hsame]

/-- A decimal next to a value has as many digits as there are places down to its own, at most. -/
theorem below_lt (hp : pattern ≠ 0) (n : Nat) :
    below f pattern (f.leadingPlace pattern - (n : Int)) < 10 ^ (n + 1) := by
  obtain ⟨-, hhigh⟩ := f.leadingPlace_spec hp
  have hlow := value_below_le f pattern (f.leadingPlace pattern - n)
  generalize f.leadingPlace pattern = l at *
  have hpow : (0 : ℚ) < 10 ^ (l - (n : Int)) := by positivity
  have hlt : (below f pattern (l - n) : ℚ) * 10 ^ (l - (n : Int)) <
      10 ^ (n + 1) * 10 ^ (l - (n : Int)) :=
    calc (below f pattern (l - n) : ℚ) * 10 ^ (l - (n : Int)) ≤ f.value pattern := hlow
      _ < 10 ^ (l + 1) := hhigh
      _ = 10 ^ ((n + 1 : Nat) + (l - (n : Int))) := by
        congr 1
        push_cast
        ring
      _ = _ := by rw [zpow_add₀ (by norm_num), zpow_natCast]
  have := lt_of_mul_lt_mul_right hlt hpow.le
  exact_mod_cast this

/-- The decimal that is found rounds back, and no decimal that rounds back has fewer digits. -/
theorem shortest_le (tie : Tie) (hp : pattern ≠ 0) (hf : pattern < f.infinity)
    (hd : f.Nearest d.value pattern) (hk : d.places ≤ 17) :
    f.Nearest (shortest tie f pattern).value pattern ∧
      (shortest tie f pattern).places ≤ d.places := by
  obtain ⟨k, hk'⟩ : ∃ k, d.places = k + 1 := ⟨_, (Nat.sub_add_cancel d.places_pos).symm⟩
  obtain ⟨n, hn, m, hm⟩ := exists_place hp hd hk'.le
  have hsome : (atPlace? tie f pattern (f.leadingPlace pattern - n)).isSome :=
    (atPlace?_isSome_iff hp hf).2 ⟨m, hm⟩
  obtain ⟨n', hn', c, hc, hfound⟩ := findSome?_range_le
    (g := fun n : Nat => atPlace? tie f pattern (f.leadingPlace pattern - n)) (n := 17)
    (show n < 17 by omega) hsome
  have hshortest : shortest tie f pattern = c.trim := by
    unfold shortest
    simp only
    unfold Format.leadingPlace at hfound
    rw [hfound]
    rfl
  obtain ⟨hexponent, hdigits, -⟩ := atPlace?_spec hc
  rw [hshortest, value_trim, places_trim, hk']
  refine ⟨atPlace?_nearest hp hf hc, (places_le ?_).trans (show n' + 1 ≤ k + 1 by omega)⟩
  have := below_lt hp n' (f := f)
  omega

/-- The two tie rules lead to the same number, or the value is just in the middle of two. -/
theorem shortest_tie (hp : pattern ≠ 0) (hf : pattern < f.infinity) :
    (shortest .away f pattern).value = (shortest .even f pattern).value ∨
      ∃ (n : Nat) (k : Int), n % 2 = 0 ∧ (shortest .away f pattern).value = (n + 1) * 10 ^ k ∧
        (shortest .even f pattern).value = n * 10 ^ k ∧
        f.value pattern = (n + 1 / 2) * 10 ^ k := by
  have hsame (n : Nat) : (atPlace? .away f pattern (f.leadingPlace pattern - n)).isSome =
      (atPlace? .even f pattern (f.leadingPlace pattern - n)).isSome := by
    rw [Bool.eq_iff_iff, atPlace?_isSome_iff hp hf, atPlace?_isSome_iff hp hf]
  have hboth := findSome?_both hsame (List.range 17)
  unfold Format.leadingPlace at hboth
  unfold shortest
  simp only
  rcases hboth with ⟨ha, hb⟩ | ⟨n, d, e, hd, he, ha, hb⟩
  · rw [ha, hb]
    exact .inl rfl
  · rw [ha, hb, Option.getD_some, Option.getD_some, value_trim, value_trim]
    rcases atPlace?_tie hd he with rfl | ⟨m, hm, rfl, rfl, hvalue⟩
    · exact .inl rfl
    · refine .inr ⟨m, _, hm, ?_, rfl, hvalue⟩
      unfold value
      push_cast
      rfl

end Decimal

/-! ### Nine digits are enough for 32 bits -/

theorem Format.nearest_of_lt_middle {f : Format} {x : ℚ} {pattern : Nat}
    (hp : pattern ≤ f.infinity) (hle : f.value pattern ≤ x) (hlt : x < f.middle pattern) :
    f.Nearest x pattern := by
  refine (nearest_iff hp).2 ⟨?_, fun _ => ⟨hlt.le, fun heq => absurd heq hlt.ne⟩⟩
  rintro p rfl
  have := f.middle_lt_value p
  exact ⟨by linarith, fun heq => absurd heq (by linarith)⟩

/-- For every finite 32-bit number some decimal of nine digits rounds back. -/
theorem Decimal.exists_nine {pattern : Nat} (hp : pattern ≠ 0) (hf : pattern < single.infinity) :
    ∃ d : Decimal, single.Nearest d.value pattern ∧ d.places ≤ 9 := by
  obtain ⟨hlow, -⟩ := single.leadingPlace_spec hp
  have hbelow := value_below_le single pattern (single.leadingPlace pattern - (8 : Nat))
  have habove := lt_value_above single pattern (single.leadingPlace pattern - (8 : Nat))
  have hdigits := below_lt hp 8 (f := single)
  refine ⟨_, Format.nearest_of_lt_middle hf.le habove.le ?_, places_le (Nat.succ_le_of_lt hdigits)⟩
  generalize single.leadingPlace pattern = l at *
  -- The decimal is off by one at the ninth place, which is less than half a bit of the last place.
  have hplace : (10 : ℚ) ^ (l - (8 : Nat)) * 10 ^ 8 ≤ single.value pattern := by
    rw [← zpow_natCast, ← zpow_add₀ (by norm_num), Int.sub_add_cancel]
    exact hlow
  have hsignificand : (single.significand pattern : ℚ) < 2 ^ 24 := by
    exact_mod_cast Format.significand_lt (f := single) (by decide) pattern
  have hvalue : single.value pattern =
      single.significand pattern * (2 ^ single.place pattern / 2 ^ single.unitPower) := by
    rw [Format.value, Format.units_eq]
    push_cast
    ring
  have hmiddle : single.middle pattern =
      single.value pattern + 2 ^ single.place pattern / 2 ^ single.unitPower / 2 := by
    rw [Format.middle_eq, Format.units_succ, Format.value]
    push_cast
    ring
  have hnext : value ⟨below single pattern (l - (8 : Nat)) + 1, l - (8 : Nat)⟩ =
      value ⟨below single pattern (l - (8 : Nat)), l - (8 : Nat)⟩ + 10 ^ (l - (8 : Nat)) := by
    unfold value
    push_cast
    ring
  have hbit : (0 : ℚ) < 2 ^ single.place pattern / 2 ^ single.unitPower := by positivity
  rw [hnext, hmiddle]
  generalize (2 ^ single.place pattern / 2 ^ single.unitPower : ℚ) = bit at *
  generalize (10 : ℚ) ^ (l - (8 : Nat)) = step at *
  generalize value ⟨below single pattern (l - (8 : Nat)), l - (8 : Nat)⟩ = low at *
  have := mul_lt_mul_of_pos_right hsignificand hbit
  linarith

/-- The decimal of a finite 32-bit number rounds back, has nine digits at most, and no decimal that
rounds back has fewer. -/
theorem Decimal.shortest_single (tie : Tie) {pattern : Nat} (hp : pattern ≠ 0)
    (hf : pattern < single.infinity) :
    single.Nearest (shortest tie single pattern).value pattern ∧
      (shortest tie single pattern).places ≤ 9 ∧
      ∀ d : Decimal, single.Nearest d.value pattern →
        (shortest tie single pattern).places ≤ d.places := by
  obtain ⟨c, hc, hplaces⟩ := exists_nine hp hf
  obtain ⟨hnearest, hle⟩ := shortest_le tie hp hf hc (by omega)
  refine ⟨hnearest, by omega, fun d hd => ?_⟩
  rcases Nat.le_total d.places 17 with h | h
  · exact (shortest_le tie hp hf hd h).2
  · omega

end DecoderExport.Number
