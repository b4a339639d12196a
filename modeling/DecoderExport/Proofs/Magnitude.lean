import DecoderExport.Number.Decimal
import DecoderExport.Number.Scaling
import Mathlib.Tactic.NormNum

/-!
# How large rounded numbers can be

Bounds of `Format.round` and `Format.units` by powers of two, one from the other. They are far from
sharp; they are enough to see that a significand of 64 bits with a moderate power of ten stays among
the finite numbers.
-/

namespace DecoderExport.Number

theorem nearestEven_le (num den : Nat) : nearestEven num den ≤ num / den + 1 := by
  have := Nat.mod_lt (num / den) (show 0 < 2 by decide)
  unfold nearestEven
  simp only
  split
  · omega
  · split <;> omega

namespace Format

variable {f : Format}

theorem leading_pos (f : Format) : 0 < f.leading := Nat.two_pow_pos _

theorem two_pow_precision (hp : 0 < f.precision) : 2 ^ f.precision = 2 * f.leading := by
  show 2 ^ f.precision = 2 * 2 ^ (f.precision - 1)
  rw [← Nat.pow_succ', Nat.succ_eq_add_one, Nat.sub_add_cancel hp]

/-- A quotient that is cut at its place has no more bits than the format holds. -/
theorem cut_lt (f : Format) (quotient : Nat) :
    quotient / 2 ^ (quotient.log2 + 1 - f.precision) < 2 ^ f.precision := by
  apply Nat.div_lt_of_lt_mul
  rw [← Nat.pow_add]
  calc quotient < 2 ^ (quotient.log2 + 1) := Nat.lt_log2_self
    _ ≤ _ := Nat.pow_le_pow_right (by decide) (by omega)

/-- A value below `2 ^ m` units gets a pattern below the binade that begins there. -/
theorem round_le (hp : 0 < f.precision) {num den m : Nat} (hm : f.precision ≤ m)
    (h : num * 2 ^ f.unitPower / den < 2 ^ m) :
    f.round num den ≤ (m - f.precision + 2) * f.leading := by
  have hq : num * Nat.pow 2 f.unitPower / den < 2 ^ m := h
  unfold round
  generalize num * Nat.pow 2 f.unitPower = scaled at hq ⊢
  have hshift : (scaled / den).log2 + 1 - f.precision ≤ m - f.precision := by
    by_cases h0 : scaled / den = 0
    · rw [h0, Nat.log2_zero]
      omega
    · have := (Nat.log2_lt h0).2 hq
      omega
  have hsig : scaled / (den * 2 ^ ((scaled / den).log2 + 1 - f.precision)) < 2 ^ f.precision := by
    rw [← Nat.div_div_eq_div_mul]
    exact f.cut_lt _
  have hnear := nearestEven_le scaled (den * 2 ^ ((scaled / den).log2 + 1 - f.precision))
  rw [two_pow_precision hp] at hsig
  calc min f.infinity _ ≤ _ := Nat.min_le_right _ _
    _ ≤ (m - f.precision) * f.leading + 2 * f.leading :=
        Nat.add_le_add (Nat.mul_le_mul_right _ hshift) (by
          show nearestEven scaled (den * 2 ^ _) ≤ _
          omega)
    _ = _ := by rw [Nat.add_mul]

/-- The units of a pattern in one of the first `k` binades. -/
theorem units_lt {pattern k : Nat} (h : pattern ≤ k * f.leading) :
    f.units pattern < 2 * f.leading * 2 ^ k := by
  have hl := f.leading_pos
  have hk : pattern / f.leading ≤ k := Nat.div_le_of_le_mul (by rwa [Nat.mul_comm])
  have hmod := Nat.mod_lt pattern hl
  have hpow := Nat.two_pow_pos k
  unfold units
  split
  · rename_i h0
    have hlt : pattern < f.leading := by
      rcases Nat.div_eq_zero_iff.1 h0 with h0 | h0
      · omega
      · exact h0
    calc pattern < 2 * f.leading * 1 := by omega
      _ ≤ _ := Nat.mul_le_mul_left _ hpow
  · calc (f.leading + pattern % f.leading) * 2 ^ (pattern / f.leading - 1)
        < (2 * f.leading) * 2 ^ (pattern / f.leading - 1) :=
          Nat.mul_lt_mul_of_pos_right (by omega) (Nat.two_pow_pos _)
      _ ≤ _ := Nat.mul_le_mul_left _ (Nat.pow_le_pow_right (by decide) (by omega))

/-- The units of a rounded value below `2 ^ m` units. -/
theorem units_round_lt (hp : 0 < f.precision) {num den m : Nat} (hm : f.precision ≤ m)
    (h : num * 2 ^ f.unitPower / den < 2 ^ m) : f.units (f.round num den) < 2 ^ (m + 2) := by
  have hunits := units_lt (round_le hp hm h)
  have hexp : 2 * f.leading * 2 ^ (m - f.precision + 2) = 2 ^ (m + 2) := by
    show 2 * 2 ^ (f.precision - 1) * 2 ^ (m - f.precision + 2) = _
    rw [← Nat.pow_succ', ← Nat.pow_add]
    congr 1
    omega
  omega

/-- The units of a rounded whole number below `2 ^ k`. -/
theorem units_round_whole_lt (hp : 0 < f.precision) {n k : Nat} (hk : f.precision ≤ k + f.unitPower)
    (h : n < 2 ^ k) : f.units (f.round n 1) < 2 ^ (k + f.unitPower + 2) := by
  apply units_round_lt hp hk
  rw [Nat.div_one, Nat.pow_add]
  exact Nat.mul_lt_mul_of_pos_right h (Nat.two_pow_pos _)

/-- The product of two patterns whose units are bounded. -/
theorem times_le (hp : 0 < f.precision) {a b i j m : Nat} (hm : f.precision ≤ m)
    (ha : f.units a < 2 ^ i) (hb : f.units b < 2 ^ j) (hij : i + j ≤ m + f.unitPower) :
    f.times a b ≤ (m - f.precision + 2) * f.leading := by
  have hproduct : f.units a * f.units b < 2 ^ (m + f.unitPower) :=
    calc f.units a * f.units b < 2 ^ i * 2 ^ j := Nat.mul_lt_mul_of_lt_of_lt ha hb
      _ = 2 ^ (i + j) := by rw [← Nat.pow_add]
      _ ≤ _ := Nat.pow_le_pow_right (by decide) hij
  apply round_le hp hm
  show f.units a * f.units b * 2 ^ f.unitPower / (2 ^ f.unitPower * 2 ^ f.unitPower) < 2 ^ m
  rw [Nat.mul_div_mul_right _ _ (Nat.two_pow_pos _)]
  apply Nat.div_lt_of_lt_mul
  rwa [← Nat.pow_add, Nat.add_comm]

end Format

/-- A significand of 64 bits times a power of ten up to 200 is a finite number. -/
theorem times_powerOfTen_lt {significand n : Nat} (hs : significand < 2 ^ 64) (hn : n ≤ 200) :
    double.times (double.round significand 1) (powerOfTen n) < double.infinity := by
  have hprecision : double.precision = 53 := rfl
  have hunitPower : double.unitPower = 1074 := rfl
  have hten : 10 ^ n < 2 ^ (4 * n + 1) :=
    calc 10 ^ n ≤ (2 ^ 4) ^ n := Nat.pow_le_pow_left (by decide) n
      _ = 2 ^ (4 * n) := by rw [← Nat.pow_mul]
      _ < _ := Nat.pow_lt_pow_right (by decide) (by omega)
  have hstart := Format.units_round_whole_lt (f := double) (by decide) (by omega) hs
  have hpower := Format.units_round_whole_lt (f := double) (by decide) (by omega) hten
  calc double.times (double.round significand 1) (powerOfTen n)
      ≤ (4 * n + 1143 - double.precision + 2) * double.leading :=
        Format.times_le (by decide) (by omega) hstart hpower (by omega)
    _ < 2047 * double.leading := Nat.mul_lt_mul_of_pos_right (by omega) double.leading_pos
    _ = double.infinity := by decide

/-- A significand of 64 bits with a power of ten up to 200 is in range. -/
theorem scale?_isSome {significand : Nat} {exponent : Int} (hs : significand < 2 ^ 64)
    (he : exponent ≤ 200) : (scale? significand exponent).isSome := by
  unfold scale?
  split
  · rename_i hnonneg
    obtain ⟨n, rfl⟩ := Int.eq_ofNat_of_zero_le hnonneg
    have hn : n ≤ 200 := by omega
    show (multiplyPower? (double.round significand 1) n).isSome
    unfold multiplyPower?
    rw [if_pos (show n ≤ maxPower by unfold maxPower; omega)]
    simp only [times_powerOfTen_lt hs hn, if_true, Option.isSome_some]
  · rfl

end DecoderExport.Number
