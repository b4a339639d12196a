import DecoderExport.Proofs.Magnitude

/-!
# Numbers that survive a wider format

Rounding keeps every value that the format holds exactly (`Format.round_units`). The units of a
32-bit pattern are a whole number of units of the 64-bit format with a significand that fits there,
so a 32-bit number that is widened and narrowed again comes back with its bits. What is no number
comes back as no number, with a payload of its own.
-/

namespace DecoderExport.Number

theorem nearestEven_mul (n : Nat) {den : Nat} (hd : 0 < den) : nearestEven (n * den) den = n := by
  unfold nearestEven
  simp only [Nat.mul_mod_left, Nat.mul_zero, hd, if_true]
  exact Nat.mul_div_cancel n hd

namespace Format

variable {f : Format}

/-- The place of the last bit of the significand of a pattern, counted in units. -/
def place (f : Format) (pattern : Nat) : Nat := pattern / f.leading - 1

/-- The significand of a pattern, with the leading bit where there is one. -/
def significand (f : Format) (pattern : Nat) : Nat := pattern - f.place pattern * f.leading

theorem units_eq (f : Format) (pattern : Nat) :
    f.units pattern = f.significand pattern * 2 ^ f.place pattern := by
  have hsplit := Nat.div_add_mod pattern f.leading
  unfold units significand place
  split
  · rename_i h
    simp [h]
  · rename_i h
    have hpos : 1 ≤ pattern / f.leading := Nat.one_le_iff_ne_zero.2 h
    have hsignificand : pattern - (pattern / f.leading - 1) * f.leading =
        f.leading + pattern % f.leading := by
      rw [Nat.sub_mul, Nat.one_mul, Nat.mul_comm]
      have := Nat.le_mul_of_pos_right f.leading hpos
      omega
    rw [hsignificand]
    rfl

theorem place_mul_leading_add (f : Format) (pattern : Nat) :
    f.place pattern * f.leading + f.significand pattern = pattern := by
  have hle : f.place pattern * f.leading ≤ pattern :=
    calc f.place pattern * f.leading ≤ pattern / f.leading * f.leading :=
          Nat.mul_le_mul_right _ (Nat.sub_le _ _)
      _ ≤ pattern := Nat.div_mul_le_self _ _
  unfold significand
  omega

theorem significand_lt (hp : 0 < f.precision) (pattern : Nat) :
    f.significand pattern < 2 ^ f.precision := by
  have htwice := two_pow_precision hp
  have hsplit := Nat.div_add_mod pattern f.leading
  have hmod := Nat.mod_lt pattern f.leading_pos
  unfold significand place
  rw [Nat.sub_mul, Nat.one_mul, Nat.mul_comm]
  omega

/-- A significand below its full width stands at the lowest place. -/
theorem leading_le_significand {pattern : Nat} (h : f.place pattern ≠ 0) :
    f.leading ≤ f.significand pattern := by
  have hsplit := Nat.div_add_mod pattern f.leading
  unfold place at h
  unfold significand place
  rw [Nat.sub_mul, Nat.one_mul, Nat.mul_comm]
  have := Nat.le_mul_of_pos_right f.leading (show 0 < pattern / f.leading by omega)
  omega

/-- The place is found again from the units: it is where the significand has its full width. -/
theorem log2_units (hp : 0 < f.precision) (pattern : Nat) :
    (f.units pattern).log2 + 1 - f.precision = f.place pattern := by
  have hlt := significand_lt hp pattern
  rw [units_eq]
  by_cases h0 : f.place pattern = 0
  · rw [h0, Nat.pow_zero, Nat.mul_one]
    by_cases hs : f.significand pattern = 0
    · rw [hs, Nat.log2_zero]
      omega
    · have := (Nat.log2_lt hs).2 hlt
      omega
  · have hfull : 2 ^ (f.precision - 1) ≤ f.significand pattern := leading_le_significand h0
    have hpos := Nat.two_pow_pos (f.place pattern)
    have hne : f.significand pattern * 2 ^ f.place pattern ≠ 0 :=
      Nat.mul_ne_zero (by have := Nat.two_pow_pos (f.precision - 1); omega) (by omega)
    have hlog : (f.significand pattern * 2 ^ f.place pattern).log2 =
        f.precision - 1 + f.place pattern := by
      rw [Nat.log2_eq_iff hne, Nat.pow_add, Nat.add_right_comm, Nat.sub_add_cancel hp, Nat.pow_add]
      exact ⟨Nat.mul_le_mul_right _ hfull, Nat.mul_lt_mul_of_pos_right hlt hpos⟩
    rw [hlog]
    omega

/-- A value that a pattern stands for is rounded to this pattern. -/
theorem round_units (hp : 0 < f.precision) {num den pattern : Nat} (hd : 0 < den)
    (hle : pattern ≤ f.infinity) (h : num * 2 ^ f.unitPower = f.units pattern * den) :
    f.round num den = pattern := by
  have hscaled : num * Nat.pow 2 f.unitPower = f.units pattern * den := h
  have hexact : f.units pattern * den =
      f.significand pattern * (den * Nat.pow 2 (f.place pattern)) := by
    rw [units_eq, Nat.mul_assoc, Nat.mul_comm den]
    rfl
  have hpos : 0 < den * Nat.pow 2 (f.place pattern) := Nat.mul_pos hd (Nat.two_pow_pos _)
  unfold round
  simp only [hscaled, Nat.mul_div_cancel _ hd, log2_units hp]
  rw [hexact, nearestEven_mul _ hpos, place_mul_leading_add]
  exact Nat.min_eq_right hle

/-- Patterns up to the second binade stand for as many units. -/
theorem units_of_lt {pattern : Nat} (h : pattern < 2 * f.leading) : f.units pattern = pattern := by
  have hplace : f.place pattern = 0 := by
    have : pattern / f.leading < 2 := Nat.div_lt_of_lt_mul (by rwa [Nat.mul_comm])
    unfold place
    omega
  simp only [units_eq, significand, hplace, Nat.zero_mul, Nat.sub_zero, Nat.pow_zero, Nat.mul_one]

/-- Twice a value is a value, at most one binade further up. -/
theorem exists_units_double (pattern : Nat) :
    ∃ q ≤ pattern + f.leading, f.units q = 2 * f.units pattern := by
  by_cases h : pattern < f.leading
  · refine ⟨2 * pattern, by omega, ?_⟩
    rw [units_of_lt (by omega), units_of_lt (by omega)]
  · refine ⟨pattern + f.leading, Nat.le_refl _, ?_⟩
    have hone : 0 < pattern / f.leading := Nat.div_pos (by omega) f.leading_pos
    have hplace : f.place (pattern + f.leading) = f.place pattern + 1 := by
      unfold place
      rw [Nat.add_div_right _ f.leading_pos]
      omega
    have hsignificand : f.significand (pattern + f.leading) = f.significand pattern := by
      unfold significand
      rw [hplace, Nat.add_mul, Nat.one_mul]
      omega
    rw [units_eq, units_eq, hplace, hsignificand, Nat.pow_succ]
    ac_rfl

/-- A significand of full width with any power of two is a value. -/
theorem exists_units {significand : Nat} (hs : significand < 2 * f.leading) (k : Nat) :
    ∃ q ≤ significand + k * f.leading, f.units q = significand * 2 ^ k := by
  induction k with
  | zero => exact ⟨significand, by omega, by rw [units_of_lt hs, Nat.pow_zero, Nat.mul_one]⟩
  | succ k ih =>
    obtain ⟨q, hq, hunits⟩ := ih
    obtain ⟨q', hq', hdouble⟩ := f.exists_units_double q
    refine ⟨q', by rw [Nat.add_mul]; omega, ?_⟩
    rw [hdouble, hunits, Nat.pow_succ]
    ac_rfl

/-- How many powers of two the units of the two formats are apart. -/
def gap : Nat := 925

theorem unitPower_double : double.unitPower = gap + single.unitPower := rfl

/-- Every finite 32-bit value is a finite 64-bit value. -/
theorem exists_units_wide {pattern : Nat} (h : pattern < single.infinity) :
    ∃ q < double.infinity, double.units q = single.units pattern * 2 ^ gap := by
  have hs := significand_lt (f := single) (by decide) pattern
  have hwide : single.significand pattern < 2 * double.leading := Nat.lt_trans hs (by decide)
  have hplace : single.place pattern ≤ 253 := by
    have : pattern / single.leading < 255 := Nat.div_lt_of_lt_mul (by rwa [Nat.mul_comm])
    unfold place
    omega
  obtain ⟨q, hq, hunits⟩ := exists_units hwide (single.place pattern + gap)
  refine ⟨q, ?_, ?_⟩
  · calc q ≤ single.significand pattern + (single.place pattern + gap) * double.leading := hq
      _ ≤ double.leading + 1178 * double.leading :=
        Nat.add_le_add (Nat.le_of_lt (Nat.lt_trans hs (by decide)))
          (Nat.mul_le_mul_right _ (by unfold gap; omega))
      _ < double.infinity := by decide
  · rw [hunits, units_eq, Nat.pow_add, Nat.mul_assoc]

end Format

namespace Binary

/-- The same number bit for bit, where all that is no number counts as the same. -/
def Matches {f : Format} (x y : Binary f) : Prop := x = y ∨ x.isNaN = true ∧ y.isNaN = true

theorem pattern_ofPattern {f : Format} (negative : Bool) {pattern : Nat} (h : pattern < f.patterns) :
    (ofPattern f negative pattern).pattern = pattern := Nat.mod_eq_of_lt h

theorem ofPattern_self {f : Format} (x : Binary f) : ofPattern f x.negative x.pattern = x := by
  cases x
  simp only [ofPattern, ofBits, mk.injEq, true_and]
  exact Nat.mod_eq_of_lt ‹_›

theorem infinity_lt_patterns (f : Format) : f.infinity < f.patterns :=
  Nat.mul_lt_mul_of_pos_right (Nat.sub_lt (Nat.two_pow_pos _) Nat.one_pos) f.leading_pos

/-- A finite 32-bit number is exact as a 64-bit number. -/
theorem convert_of_finite {x : Single} (h : x.pattern < single.infinity) :
    ∃ q < double.infinity, double.units q = single.units x.pattern * 2 ^ Format.gap ∧
      x.convert double = ofPattern double x.negative q := by
  obtain ⟨q, hq, hunits⟩ := Format.exists_units_wide h
  refine ⟨q, hq, hunits, ?_⟩
  have hnan : x.isNaN = false := decide_eq_false (by omega)
  have hinf : x.isInfinite = false := decide_eq_false (by omega)
  have hround : double.round (single.units x.pattern) (Nat.pow 2 single.unitPower) = q := by
    apply Format.round_units (by decide) (Nat.two_pow_pos _) (Nat.le_of_lt hq)
    rw [hunits, Format.unitPower_double, Nat.pow_add, Nat.mul_assoc]
  simp only [convert, hnan, hinf, Bool.false_eq_true, if_false, ofQuotient, hround]

theorem Matches.trans {f : Format} {x y z : Binary f} (hxy : x.Matches y) (hyz : y.Matches z) :
    x.Matches z := by
  rcases hxy with rfl | ⟨hx, hy⟩
  · exact hyz
  rcases hyz with rfl | ⟨-, hz⟩
  · exact .inr ⟨hx, hy⟩
  · exact .inr ⟨hx, hz⟩

/-- A 32-bit number that is widened and narrowed again comes back. -/
theorem matches_widened (x : Single) : x.Matches ((x.convert double).convert single) := by
  rcases Nat.lt_trichotomy x.pattern single.infinity with h | h | h
  · left
    obtain ⟨q, hq, hunits, hwide⟩ := convert_of_finite h
    have hpattern := pattern_ofPattern x.negative (Nat.lt_trans hq (infinity_lt_patterns double))
    have hnan : (ofPattern double x.negative q).isNaN = false :=
      decide_eq_false (by rw [hpattern]; omega)
    have hinf : (ofPattern double x.negative q).isInfinite = false :=
      decide_eq_false (by rw [hpattern]; omega)
    have hround : single.round (double.units q) (Nat.pow 2 double.unitPower) = x.pattern := by
      apply Format.round_units (by decide) (Nat.two_pow_pos _) (Nat.le_of_lt h)
      rw [hunits, Nat.mul_assoc, ← Nat.pow_add, ← Format.unitPower_double]
    rw [hwide]
    simp only [convert, hnan, hinf, Bool.false_eq_true, if_false, ofQuotient, hpattern, hround]
    exact (ofPattern_self x).symm
  · left
    have hinf : x = ofPattern single x.negative single.infinity := by
      rw [← h, ofPattern_self]
    rw [hinf]
    cases x.negative <;> decide
  · right
    have hnan : x.isNaN = true := decide_eq_true h
    have hwide : x.convert double = ofPattern double x.negative double.quietNaN := by
      simp only [convert, hnan, if_true]
    refine ⟨hnan, ?_⟩
    rw [hwide]
    cases x.negative <;> decide

end Binary

end DecoderExport.Number
