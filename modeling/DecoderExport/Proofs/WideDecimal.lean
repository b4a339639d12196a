import DecoderExport.Proofs.ShortestDecimal

/-!
# Decimals that survive the wide format

Two decimals of fifteen digits are further apart than the 64-bit numbers are, so no two of them are
rounded to one normal number. The shortest decimal of a 32-bit number has nine digits, and it is
rounded to a normal 64-bit number: what is found for that number again is the same decimal.
-/

namespace DecoderExport.Number

namespace Format

variable {f : Format} {x y : ℚ} {pattern : Nat}

/-- What is rounded to one finite pattern lies within one bit of its last place. -/
theorem Nearest.sub_le (hp : pattern ≠ 0) (hf : pattern < f.infinity) (hx : f.Nearest x pattern)
    (hy : f.Nearest y pattern) : x - y ≤ 2 ^ f.place pattern / 2 ^ f.unitPower := by
  obtain ⟨p, rfl⟩ : ∃ p, p + 1 = pattern := ⟨pattern - 1, by omega⟩
  have hhigh := (((nearest_iff hf.le).1 hx).2 hf).1
  have hlow := (((nearest_iff hf.le).1 hy).1 p rfl).1
  have hplace : (2 : ℚ) ^ f.place p ≤ 2 ^ f.place (p + 1) := by
    apply pow_le_pow_right₀ (by norm_num)
    exact Nat.sub_le_sub_right (Nat.div_le_div_right (Nat.le_succ p)) 1
  have hwidth : f.middle (p + 1) - f.middle p =
      (2 ^ f.place p + 2 ^ f.place (p + 1)) / 2 / 2 ^ f.unitPower := by
    rw [middle_eq, middle_eq, f.units_succ (p + 1), f.units_succ p]
    push_cast
    ring
  calc x - y ≤ f.middle (p + 1) - f.middle p := by linarith
    _ = (2 ^ f.place p + 2 ^ f.place (p + 1)) / 2 / 2 ^ f.unitPower := hwidth
    _ ≤ _ := by
      apply div_le_div_of_nonneg_right _ (by positivity)
      linarith

/-- What is rounded to a value is at least one half of it. -/
theorem Nearest.half_le (hp : pattern ≠ 0) (hx : f.Nearest x pattern) :
    f.value pattern / 2 ≤ x := by
  obtain ⟨p, rfl⟩ : ∃ p, p + 1 = pattern := ⟨pattern - 1, by omega⟩
  have hlow := (((nearest_iff hx.le).1 hx).1 p rfl).1
  have hnonneg := f.value_nonneg p
  unfold middle at hlow
  linarith

/-- The significand of a normal number has its full width. -/
theorem leading_le_value (hn : f.leading ≤ pattern) :
    f.leading * (2 ^ f.place pattern / 2 ^ f.unitPower : ℚ) ≤ f.value pattern := by
  have hfull : f.leading ≤ f.significand pattern := by
    by_cases hplace : f.place pattern = 0
    · rw [significand, hplace, Nat.zero_mul]
      exact hn
    · exact leading_le_significand hplace
  have hcast : (f.leading : ℚ) ≤ f.significand pattern := by exact_mod_cast hfull
  have hunits : f.value pattern =
      f.significand pattern * (2 ^ f.place pattern / 2 ^ f.unitPower) := by
    rw [value, units_eq]
    push_cast
    ring
  rw [hunits]
  exact mul_le_mul_of_nonneg_right hcast (by positivity)

end Format

namespace Decimal

variable {f : Format} {pattern : Nat} {c d : Decimal}

/-- Of two decimals on the grid of the first one, the first one is small against their distance. -/
theorem lt_of_ne {k : Nat} (hk : c.places ≤ k) {n : Nat} (hne : c.trim.digits ≠ n) :
    c.value < 10 ^ k * |c.value - n * 10 ^ c.trim.exponent| := by
  have hstep : (0 : ℚ) < 10 ^ c.trim.exponent := by positivity
  have hdigits : (c.trim.digits : ℚ) < 10 ^ k := by
    exact_mod_cast Nat.lt_of_lt_of_le c.digits_trim_lt (Nat.pow_le_pow_right (by decide) hk)
  have hapart : (1 : ℚ) ≤ |(c.trim.digits : ℚ) - n| := by
    have hint : (1 : ℤ) ≤ |(c.trim.digits : ℤ) - n| := Int.one_le_abs (by omega)
    exact_mod_cast hint
  rw [← value_trim, value, ← sub_mul, abs_mul, abs_of_pos hstep, ← mul_assoc]
  apply mul_lt_mul_of_pos_right _ hstep
  calc (c.trim.digits : ℚ) < 10 ^ k := hdigits
    _ ≤ 10 ^ k * |(c.trim.digits : ℚ) - n| := le_mul_of_one_le_right (by positivity) hapart

/-- Two decimals of few digits that are rounded to one normal number are equal. -/
theorem value_unique {k : Nat} (hfew : 2 * 10 ^ k ≤ f.leading) (hn : f.leading ≤ pattern)
    (hf : pattern < f.infinity) (hc : f.Nearest c.value pattern) (hd : f.Nearest d.value pattern)
    (hck : c.places ≤ k) (hdk : d.places ≤ k) : c.value = d.value := by
  wlog hle : c.trim.exponent ≤ d.trim.exponent
  · exact (this hfew hn hf hd hc hdk hck (Int.le_of_not_le hle)).symm
  obtain ⟨j, hj⟩ := Int.eq_ofNat_of_zero_le (Int.sub_nonneg_of_le hle)
  have hgrid : d.value = (d.trim.digits * 10 ^ j : Nat) * 10 ^ c.trim.exponent := by
    rw [← value_trim, value, show d.trim.exponent = j + c.trim.exponent by omega,
      zpow_add₀ (by norm_num), zpow_natCast]
    push_cast
    ring
  by_contra hne
  have hdigits : c.trim.digits ≠ d.trim.digits * 10 ^ j := by
    intro h
    rw [hgrid, ← h, ← value_trim] at hne
    exact hne rfl
  have hp : pattern ≠ 0 := by
    have := f.leading_pos
    omega
  have hsmall := lt_of_ne hck hdigits
  rw [← hgrid] at hsmall
  have hhalf := hc.half_le hp
  have hfull := Format.leading_le_value hn
  have hclose : |c.value - d.value| ≤ 2 ^ f.place pattern / 2 ^ f.unitPower :=
    abs_sub_le_iff.2 ⟨hc.sub_le hp hf hd, hd.sub_le hp hf hc⟩
  have hbit : (0 : ℚ) < 2 ^ f.place pattern / 2 ^ f.unitPower := by positivity
  generalize (2 ^ f.place pattern / 2 ^ f.unitPower : ℚ) = bit at *
  have hfew : (2 * 10 ^ k : ℚ) ≤ f.leading := by exact_mod_cast hfew
  have h1 : (10 : ℚ) ^ k * |c.value - d.value| ≤ 10 ^ k * bit :=
    mul_le_mul_of_nonneg_left hclose (by positivity)
  have h2 : 2 * 10 ^ k * bit ≤ f.leading * bit := mul_le_mul_of_nonneg_right hfew hbit.le
  linarith

/-- The decimal that is found for a normal number is the one of few digits that was rounded to it. -/
theorem shortest_eq (tie : Tie) {k : Nat} (hk : k ≤ 17) (hfew : 2 * 10 ^ k ≤ f.leading)
    (hn : f.leading ≤ pattern) (hf : pattern < f.infinity) (hd : f.Nearest d.value pattern)
    (hdk : d.places ≤ k) : (shortest tie f pattern).value = d.value := by
  have hp : pattern ≠ 0 := by
    have := f.leading_pos
    omega
  obtain ⟨hnearest, hle⟩ := shortest_le tie hp hf hd (by omega)
  exact value_unique hfew hn hf hnearest hd (by omega) hdk

/-- A decimal is rounded to the number that it becomes. -/
theorem toBinary_nearest (hp : 1 < f.precision) (negative : Bool) (d : Decimal) :
    f.Nearest d.value (d.toBinary f negative).pattern := by
  have hden : 0 < Nat.pow 10 (-d.exponent).toNat := Nat.pow_pos (by decide)
  have hround := Format.round_nearest hp (d.digits * Nat.pow 10 d.exponent.toNat) hden
  have hvalue : ((d.digits * Nat.pow 10 d.exponent.toNat : Nat) /
      (Nat.pow 10 (-d.exponent).toNat : Nat) : ℚ) = d.value := by
    rw [value, ten_zpow, ← mul_div_assoc]
    simp only [Nat.pow_eq]
    push_cast
    rfl
  rw [hvalue] at hround
  have hfits := Nat.lt_of_le_of_lt hround.le (Binary.infinity_lt_patterns f)
  rwa [toBinary, Binary.ofQuotient, Binary.pattern_ofPattern negative hfits]

end Decimal

/-! ### From 32 to 64 bits -/

/-- The smallest significand of a binade. -/
theorem Format.value_leading_mul (f : Format) (k : Nat) :
    f.value (f.leading * (k + 1)) = f.leading * 2 ^ k / 2 ^ f.unitPower := by
  have hunits := f.units_mul_add f.leading_pos (k + 1)
  simp only [Nat.add_zero, if_neg (Nat.succ_ne_zero k), Nat.add_sub_cancel] at hunits
  rw [value, hunits]
  push_cast
  rfl

/-- What is rounded to a finite 32-bit number other than zero is rounded to a normal 64-bit one. -/
theorem normal_of_nearest {x : ℚ} {p q : Nat} (hp : p ≠ 0) (hf : p < single.infinity)
    (hsingle : single.Nearest x p) (hdouble : double.Nearest x q) :
    double.leading ≤ q ∧ q < double.infinity := by
  constructor
  · -- The smallest 32-bit number has the exponent -149.
    have hhalf := hsingle.half_le hp
    have hone : single.value 1 ≤ single.value p :=
      single.value_strictMono.monotone (Nat.one_le_iff_ne_zero.2 hp)
    have hsmall : single.value 1 = 1 / 2 ^ 149 := by
      rw [Format.value, Format.units_of_lt (by decide), Nat.cast_one]
      rfl
    have hnormal : double.value double.leading ≤ 1 / 2 ^ 149 / 2 := by
      have hvalue := double.value_leading_mul 0
      rw [Nat.zero_add, Nat.mul_one] at hvalue
      have hleading : (double.leading : ℚ) = 2 ^ 52 := by norm_num [Format.leading, double]
      rw [hvalue, hleading, show double.unitPower = 1074 from rfl, div_div,
        div_le_div_iff₀ (by positivity) (by positivity), one_mul, ← pow_succ, ← pow_add, ← pow_add]
      exact pow_le_pow_right₀ (by norm_num) (by decide)
    exact hdouble.le_pattern (by decide) (by linarith)
  · -- All finite 32-bit numbers lie below the power of two with the exponent 128.
    have hmiddle := (((Format.nearest_iff hf.le).1 hsingle).2 hf).1
    have hnext := single.middle_lt_value p
    have hinfinity : single.value (p + 1) ≤ single.value single.infinity :=
      single.value_strictMono.monotone hf
    have hlarge : single.value single.infinity = double.value (double.leading * (1150 + 1)) := by
      have hleading : (double.leading : ℚ) = 2 ^ 52 := by norm_num [Format.leading, double]
      have hleading' : (single.leading : ℚ) = 2 ^ 23 := by norm_num [Format.leading, single]
      rw [show single.infinity = single.leading * (254 + 1) from rfl, Format.value_leading_mul,
        Format.value_leading_mul, hleading, hleading', show double.unitPower = 1074 from rfl,
        show single.unitPower = 149 from rfl, div_eq_div_iff (by positivity) (by positivity),
        ← pow_add, ← pow_add, ← pow_add, ← pow_add]
    have hle := hdouble.pattern_le (p := double.leading * (1150 + 1)) (by decide) (by linarith)
    exact Nat.lt_of_le_of_lt hle (by decide)

/-- The shortest decimal of a finite 32-bit number is found again for the 64-bit number that it
becomes. -/
theorem Decimal.shortest_wide (tie tie' : Tie) {pattern : Nat} (hp : pattern ≠ 0)
    (hf : pattern < single.infinity) (negative : Bool) :
    let y := (shortest tie single pattern).toBinary double negative
    double.leading ≤ y.pattern ∧ y.pattern < double.infinity ∧
      (shortest tie' double y.pattern).value = (shortest tie single pattern).value := by
  intro y
  obtain ⟨hsingle, hnine, -⟩ := shortest_single tie hp hf
  have hdouble : double.Nearest _ y.pattern := toBinary_nearest (by decide) negative _
  obtain ⟨hn, hfinite⟩ := normal_of_nearest hp hf hsingle hdouble
  refine ⟨hn, hfinite, ?_⟩
  exact shortest_eq tie' (k := 15) (by decide) (by decide) hn hfinite hdouble (by omega)

end DecoderExport.Number
