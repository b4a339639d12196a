import DecoderExport.Proofs.Widening
import Mathlib.Algebra.Order.Field.Rat
import Mathlib.Data.Nat.Cast.Order.Field
import Mathlib.Order.Monotone.Basic
import Mathlib.Tactic.FieldSimp
import Mathlib.Tactic.Linarith
import Mathlib.Tactic.Positivity
import Mathlib.Tactic.Ring

/-!
# Rounding goes to the nearest value

The finite patterns of a format stand for rational numbers in increasing order. `Format.Nearest` says
when a rational number is rounded to a pattern, without saying how the pattern is found: no pattern
is nearer, and of two that are equally near the even one is taken. The numbers that are rounded to a
pattern are those between the two middles to its neighbours (`Format.nearest_iff`), and
`Format.round` finds this pattern for every quotient.
-/

namespace DecoderExport.Number

namespace Format

variable {f : Format}

/-! ### The values of patterns -/

/-- The number that a finite pattern stands for. The pattern of infinity counts as the number with
which the finite ones would go on. -/
def value (f : Format) (pattern : Nat) : ℚ := f.units pattern / 2 ^ f.unitPower

theorem units_mul_add {r : Nat} (hr : r < f.leading) (k : Nat) :
    f.units (f.leading * k + r) = if k = 0 then r else (f.leading + r) * 2 ^ (k - 1) := by
  have hdiv : (f.leading * k + r) / f.leading = k := by
    rw [Nat.mul_add_div f.leading_pos, Nat.div_eq_of_lt hr, Nat.add_zero]
  have hmod : (f.leading * k + r) % f.leading = r := by
    rw [Nat.mul_add_mod, Nat.mod_eq_of_lt hr]
  unfold units
  rw [hdiv, hmod]
  split
  · rename_i hk
    rw [hk, Nat.mul_zero, Nat.zero_add]
  · rfl

theorem place_mul_add {r : Nat} (hr : r < f.leading) (k : Nat) :
    f.place (f.leading * k + r) = k - 1 := by
  rw [place, Nat.mul_add_div f.leading_pos, Nat.div_eq_of_lt hr, Nat.add_zero]

/-- From one pattern to the next the value grows by one bit in the last place. -/
theorem units_succ (f : Format) (pattern : Nat) :
    f.units (pattern + 1) = f.units pattern + 2 ^ f.place pattern := by
  obtain ⟨k, r, hr, rfl⟩ : ∃ k r, r < f.leading ∧ f.leading * k + r = pattern :=
    ⟨_, _, Nat.mod_lt pattern f.leading_pos, Nat.div_add_mod pattern f.leading⟩
  rw [units_mul_add hr, place_mul_add hr]
  by_cases hlast : r + 1 < f.leading
  · rw [Nat.add_assoc, units_mul_add hlast]
    split
    · rename_i hk
      simp [hk]
    · ring
  · -- a carry out of the significand goes into the exponent
    have hcarry : f.leading * k + r + 1 = f.leading * (k + 1) + 0 := by
      rw [Nat.mul_succ]
      omega
    have hfull : r + 1 = f.leading := by omega
    rw [hcarry, units_mul_add f.leading_pos, if_neg (Nat.succ_ne_zero k)]
    cases k with
    | zero => simp [hfull]
    | succ k =>
      simp only [Nat.add_sub_cancel, if_neg (Nat.succ_ne_zero k), Nat.add_zero, Nat.pow_succ]
      nlinarith [Nat.two_pow_pos k]

theorem units_strictMono (f : Format) : StrictMono f.units :=
  strictMono_nat_of_lt_succ fun p => by
    rw [units_succ]
    exact Nat.lt_add_of_pos_right (Nat.two_pow_pos _)

theorem value_strictMono (f : Format) : StrictMono f.value := by
  intro p q h
  have hunits : (f.units p : ℚ) < f.units q := by exact_mod_cast f.units_strictMono h
  exact div_lt_div_of_pos_right hunits (by positivity)

theorem value_zero (f : Format) : f.value 0 = 0 := by
  have hzero : f.units 0 = 0 := units_of_lt (Nat.mul_pos (by decide) f.leading_pos)
  rw [value, hzero, Nat.cast_zero, zero_div]

theorem value_nonneg (f : Format) (pattern : Nat) : 0 ≤ f.value pattern := by
  unfold value
  positivity

/-! ### The nearest value -/

/-- A number is rounded to a pattern: no pattern is nearer, and the pattern is even if another one is
equally near. -/
structure Nearest (f : Format) (x : ℚ) (pattern : Nat) : Prop where
  le : pattern ≤ f.infinity
  nearest : ∀ p ≤ f.infinity, |x - f.value pattern| ≤ |x - f.value p|
  even : ∀ p ≤ f.infinity, p ≠ pattern → |x - f.value p| = |x - f.value pattern| →
    pattern % 2 = 0

/-- The number in the middle between a pattern and the next one. -/
def middle (f : Format) (pattern : Nat) : ℚ := (f.value pattern + f.value (pattern + 1)) / 2

theorem value_lt_middle (f : Format) (pattern : Nat) : f.value pattern < f.middle pattern := by
  have := f.value_strictMono (Nat.lt_succ_self pattern)
  unfold middle
  linarith

theorem middle_lt_value (f : Format) (pattern : Nat) :
    f.middle pattern < f.value (pattern + 1) := by
  have := f.value_strictMono (Nat.lt_succ_self pattern)
  unfold middle
  linarith

end Format

/-- Of two numbers the larger one is nearer from their middle on. -/
theorem abs_sub_right_le_iff {x a b : ℚ} (h : a < b) : |x - b| ≤ |x - a| ↔ (a + b) / 2 ≤ x := by
  constructor
  · intro hle
    by_contra hx
    rw [not_le] at hx
    rw [abs_of_neg (show x - b < 0 by linarith)] at hle
    rcases abs_cases (x - a) with ⟨ha, -⟩ | ⟨ha, -⟩ <;> linarith
  · intro hx
    rw [abs_of_pos (show 0 < x - a by linarith), abs_le]
    constructor <;> linarith

/-- Of two numbers the smaller one is nearer up to their middle. -/
theorem abs_sub_left_le_iff {x a b : ℚ} (h : a < b) : |x - a| ≤ |x - b| ↔ x ≤ (a + b) / 2 := by
  constructor
  · intro hle
    by_contra hx
    rw [not_le] at hx
    rw [abs_of_pos (show 0 < x - a by linarith)] at hle
    rcases abs_cases (x - b) with ⟨hb, -⟩ | ⟨hb, -⟩ <;> linarith
  · intro hx
    rw [abs_sub_comm x b, abs_of_pos (show 0 < b - x by linarith), abs_le]
    constructor <;> linarith

namespace Format

variable {f : Format} {x y : ℚ} {pattern : Nat}

/-- A number is rounded to a pattern if it lies between the middles to the two neighbours; a middle
belongs to the even one. -/
theorem nearest_iff (hp : pattern ≤ f.infinity) :
    f.Nearest x pattern ↔
      (∀ p, p + 1 = pattern → f.middle p ≤ x ∧ (f.middle p = x → pattern % 2 = 0)) ∧
      (pattern < f.infinity → x ≤ f.middle pattern ∧ (x = f.middle pattern → pattern % 2 = 0)) := by
  constructor
  · intro h
    constructor
    · rintro p rfl
      have hlt := f.value_strictMono (Nat.lt_succ_self p)
      have hple : p ≤ f.infinity := by omega
      have hmiddle := (abs_sub_right_le_iff hlt).1 (h.nearest p hple)
      refine ⟨hmiddle, fun heq => h.even p hple (by omega) (le_antisymm ?_ (h.nearest p hple))⟩
      exact (abs_sub_left_le_iff hlt).2 (by rw [← heq]; exact le_rfl)
    · intro hinf
      have hlt := f.value_strictMono (Nat.lt_succ_self pattern)
      have hmiddle := (abs_sub_left_le_iff hlt).1 (h.nearest _ hinf)
      refine ⟨hmiddle, fun heq => h.even _ hinf (by omega) (le_antisymm ?_ (h.nearest _ hinf))⟩
      exact (abs_sub_right_le_iff hlt).2 (by rw [heq]; exact le_rfl)
  · rintro ⟨hlow, hhigh⟩
    -- Patterns further away are compared by way of the neighbour on the same side.
    have hbelow : ∀ p < pattern, (f.value p + f.value pattern) / 2 ≤ x ∧
        ((f.value p + f.value pattern) / 2 = x → pattern % 2 = 0) := by
      intro p hlt
      obtain ⟨q, rfl⟩ : ∃ q, q + 1 = pattern := ⟨pattern - 1, by omega⟩
      obtain ⟨hmiddle, hodd⟩ := hlow q rfl
      have hq : f.value p ≤ f.value q := f.value_strictMono.monotone (by omega)
      unfold middle at hmiddle hodd
      refine ⟨by linarith, fun heq => hodd (by linarith)⟩
    have habove : ∀ p ≤ f.infinity, pattern < p → x ≤ (f.value pattern + f.value p) / 2 ∧
        (x = (f.value pattern + f.value p) / 2 → pattern % 2 = 0) := by
      intro p hp hlt
      obtain ⟨hmiddle, hodd⟩ := hhigh (by omega)
      have hq : f.value (pattern + 1) ≤ f.value p := f.value_strictMono.monotone hlt
      unfold middle at hmiddle hodd
      refine ⟨by linarith, fun heq => hodd (by linarith)⟩
    refine ⟨hp, ?_, ?_⟩
    · intro p hp
      rcases Nat.lt_trichotomy p pattern with h | rfl | h
      · exact (abs_sub_right_le_iff (f.value_strictMono h)).2 (hbelow p h).1
      · exact le_rfl
      · exact (abs_sub_left_le_iff (f.value_strictMono h)).2 (habove p hp h).1
    · intro p hp hne heq
      rcases Nat.lt_or_gt_of_ne hne with h | h
      · have hmiddle := (abs_sub_left_le_iff (f.value_strictMono h)).1 heq.le
        exact (hbelow p h).2 (le_antisymm (hbelow p h).1 hmiddle)
      · have hmiddle := (abs_sub_right_le_iff (f.value_strictMono h)).1 heq.le
        exact (habove p hp h).2 (le_antisymm (habove p hp h).1 hmiddle)

namespace Nearest

/-- What lies above a value is not rounded to less than this value. -/
theorem le_pattern (h : f.Nearest x pattern) {p : Nat} (hp : p ≤ f.infinity) (hx : f.value p ≤ x) :
    p ≤ pattern := by
  by_contra hlt
  rw [not_le] at hlt
  have hvalue := f.value_strictMono hlt
  have hmiddle := (abs_sub_left_le_iff hvalue).1 (h.nearest p hp)
  linarith

/-- What lies below a value is not rounded to more than this value. -/
theorem pattern_le (h : f.Nearest x pattern) {p : Nat} (hp : p ≤ f.infinity) (hx : x ≤ f.value p) :
    pattern ≤ p := by
  by_contra hlt
  rw [not_le] at hlt
  have hvalue := f.value_strictMono hlt
  have hmiddle := (abs_sub_right_le_iff hvalue).1 (h.nearest p hp)
  linarith

/-- What lies between a number and the value that it is rounded to is rounded to it as well. -/
theorem between (h : f.Nearest x pattern)
    (hy : x ≤ y ∧ y ≤ f.value pattern ∨ f.value pattern ≤ y ∧ y ≤ x) : f.Nearest y pattern := by
  obtain ⟨hlow, hhigh⟩ := (nearest_iff h.le).1 h
  refine (nearest_iff h.le).2 ⟨?_, ?_⟩
  · rintro p rfl
    obtain ⟨hmiddle, hodd⟩ := hlow p rfl
    have hlt := f.middle_lt_value p
    rcases hy with ⟨hxy, -⟩ | ⟨hxy, -⟩
    · exact ⟨by linarith, fun heq => hodd (by linarith)⟩
    · exact ⟨by linarith, fun heq => absurd heq (by linarith)⟩
  · intro hinf
    obtain ⟨hmiddle, hodd⟩ := hhigh hinf
    have hlt := f.value_lt_middle pattern
    rcases hy with ⟨-, hxy⟩ | ⟨-, hxy⟩
    · exact ⟨by linarith, fun heq => absurd heq (by linarith)⟩
    · exact ⟨by linarith, fun heq => hodd (by linarith)⟩

/-- A number is rounded to one pattern only. -/
theorem unique {p q : Nat} (hp : f.Nearest x p) (hq : f.Nearest x q) : p = q := by
  -- Both would have to be even, but only neighbours are equally near.
  wlog hle : p ≤ q
  · exact (this hq hp (by omega)).symm
  by_contra hne
  have hlt : p < q := by omega
  obtain ⟨r, rfl⟩ : ∃ r, r + 1 = q := ⟨q - 1, by omega⟩
  have hinf : p < f.infinity := by have := hq.le; omega
  obtain ⟨hxp, hp'⟩ := ((nearest_iff hp.le).1 hp).2 hinf
  obtain ⟨hxq, hq'⟩ := ((nearest_iff hq.le).1 hq).1 r rfl
  have hpr : f.value p ≤ f.value r := f.value_strictMono.monotone (by omega)
  have hsucc : f.value (p + 1) ≤ f.value (r + 1) := f.value_strictMono.monotone (by omega)
  have hmiddle : f.middle p = f.middle r := by
    unfold middle at *
    linarith
  have hx : x = f.middle p := by linarith
  have hvalue : f.value p = f.value r := by
    unfold middle at hmiddle
    linarith
  obtain rfl := f.value_strictMono.injective hvalue
  have hevenp := hp' hx
  have hevenq := hq' hx.symm
  omega

end Nearest

/-- A value is rounded to its own pattern. -/
theorem nearest_value (hp : pattern ≤ f.infinity) : f.Nearest (f.value pattern) pattern := by
  refine (nearest_iff hp).2 ⟨?_, ?_⟩
  · rintro p rfl
    have := f.middle_lt_value p
    exact ⟨this.le, fun heq => absurd heq this.ne⟩
  · intro _
    have := f.value_lt_middle pattern
    exact ⟨this.le, fun heq => absurd heq this.ne⟩

end Format

/-! ### Rounding a quotient -/

/-- The nearest whole number is off by one half at most, and it is even if it is off by that much. -/
theorem nearestEven_spec (num : Nat) {den : Nat} (hd : 0 < den) :
    2 * (nearestEven num den * den) ≤ 2 * num + den ∧
      2 * num ≤ 2 * (nearestEven num den * den) + den ∧
      (2 * (nearestEven num den * den) = 2 * num + den ∨
        2 * num = 2 * (nearestEven num den * den) + den → nearestEven num den % 2 = 0) := by
  have hsplit := Nat.div_add_mod num den
  have hmod := Nat.mod_lt num hd
  have hparity := Nat.mod_two_eq_zero_or_one (num / den)
  rw [Nat.mul_comm] at hsplit
  unfold nearestEven
  simp only
  split
  · exact ⟨by omega, by omega, by omega⟩
  · split
    · rw [Nat.add_mul, Nat.one_mul]
      exact ⟨by omega, by omega, by omega⟩
    · rcases hparity with h | h
      · rw [h, Nat.add_zero]
        exact ⟨by omega, by omega, fun _ => h⟩
      · rw [h, Nat.add_mul, Nat.one_mul]
        exact ⟨by omega, by omega, fun _ => by omega⟩

/-- The nearest whole number, off by one half at most, and even if it is off by that much. -/
theorem nearestEven_near (num : Nat) {den : Nat} (hd : 0 < den) :
    ((nearestEven num den : ℚ) - 1 / 2 ≤ num / den ∧ (num / den : ℚ) ≤ nearestEven num den + 1 / 2) ∧
      ((nearestEven num den : ℚ) - 1 / 2 = num / den ∨ (num / den : ℚ) = nearestEven num den + 1 / 2 →
        nearestEven num den % 2 = 0) := by
  obtain ⟨hlow, hhigh, htie⟩ := nearestEven_spec num hd
  have hden : (0 : ℚ) < den := by exact_mod_cast hd
  generalize nearestEven num den = n at *
  have hlow : (2 * (n * den) : ℚ) ≤ 2 * num + den := by exact_mod_cast hlow
  have hhigh : (2 * num : ℚ) ≤ 2 * (n * den) + den := by exact_mod_cast hhigh
  refine ⟨⟨?_, ?_⟩, fun h => htie (h.imp (fun h => ?_) fun h => ?_)⟩
  · rw [le_div_iff₀ hden]
    linarith
  · rw [div_le_iff₀ hden]
    linarith
  · rw [eq_div_iff hden.ne'] at h
    have : (2 * (n * den) : ℚ) = 2 * num + den := by linarith
    exact_mod_cast this
  · rw [div_eq_iff hden.ne'] at h
    have : (2 * num : ℚ) = 2 * (n * den) + den := by linarith
    exact_mod_cast this

theorem div_le_nearestEven (num den : Nat) : num / den ≤ nearestEven num den := by
  unfold nearestEven
  simp only
  split
  · exact Nat.le_refl _
  · split <;> omega

namespace Format

variable {f : Format}

/-- A significand of full width at a place, also one that has just been carried over. -/
theorem units_place_add {shift significand : Nat} (hfull : shift = 0 ∨ f.leading ≤ significand)
    (hle : significand ≤ 2 * f.leading) :
    f.units (shift * f.leading + significand) = significand * 2 ^ shift := by
  have hpos := f.leading_pos
  rcases Nat.lt_or_ge significand f.leading with hlt | hge
  · obtain rfl := hfull.resolve_right (by omega)
    rw [Nat.zero_mul, Nat.zero_add, units_of_lt (by omega), Nat.pow_zero, Nat.mul_one]
  · rcases Nat.lt_or_ge significand (2 * f.leading) with hlt | hge
    · have hsplit : shift * f.leading + significand =
          f.leading * (shift + 1) + (significand - f.leading) := by
        rw [Nat.mul_succ, Nat.mul_comm]
        omega
      rw [hsplit, units_mul_add (by omega), if_neg (Nat.succ_ne_zero shift), Nat.add_sub_cancel,
        Nat.add_sub_cancel' (by omega)]
    · have hsplit : shift * f.leading + significand = f.leading * (shift + 2) + 0 := by
        rw [Nat.mul_add, Nat.mul_comm]
        omega
      rw [hsplit, units_mul_add hpos, if_neg (by omega), show shift + 2 - 1 = shift + 1 from rfl,
        Nat.pow_succ, show significand = 2 * f.leading by omega]
      ring

/-- The place where a quotient is cut, and the significand that it has there. -/
theorem scaled_bounds (hp : 0 < f.precision) (quotient : Nat) :
    let shift := quotient.log2 + 1 - f.precision
    quotient / 2 ^ shift < 2 * f.leading ∧ (shift = 0 ∨ f.leading * 2 ^ shift ≤ quotient) := by
  intro shift
  constructor
  · rw [← two_pow_precision hp]
    exact f.cut_lt quotient
  · by_cases hshift : shift = 0
    · exact .inl hshift
    · right
      have hne : quotient ≠ 0 := by
        rintro rfl
        have : shift = 0 + 1 - f.precision := congrArg (· + 1 - f.precision) Nat.log2_zero
        omega
      calc f.leading * 2 ^ shift = 2 ^ (f.precision - 1 + shift) := (Nat.pow_add ..).symm
        _ ≤ 2 ^ quotient.log2 := Nat.pow_le_pow_right (by decide) (by omega)
        _ ≤ quotient := Nat.log2_self_le hne

theorem le_place {shift significand : Nat} (hfull : shift = 0 ∨ f.leading ≤ significand) :
    shift ≤ f.place (shift * f.leading + significand) := by
  rcases hfull with rfl | hle
  · exact Nat.zero_le _
  · have hone : 0 < significand / f.leading := Nat.div_pos hle f.leading_pos
    unfold place
    rw [Nat.mul_comm, Nat.mul_add_div f.leading_pos]
    omega

theorem leading_even (hp : 1 < f.precision) : f.leading % 2 = 0 := by
  obtain ⟨k, hk⟩ : ∃ k, f.precision - 1 = k + 1 := ⟨f.precision - 2, by omega⟩
  show 2 ^ (f.precision - 1) % 2 = 0
  rw [hk, Nat.pow_succ, Nat.mul_mod_left]

theorem middle_eq (f : Format) (pattern : Nat) :
    f.middle pattern = (f.units pattern + f.units (pattern + 1)) / 2 / 2 ^ f.unitPower := by
  unfold middle value
  ring

/-- A number of units is cut to a significand at a place: the significand has its full width where
the place is not the last one, and it is off by one half at most. -/
structure CutTo (f : Format) (y : ℚ) (shift significand : Nat) : Prop where
  full : shift = 0 ∨ f.leading ≤ significand
  le : significand ≤ 2 * f.leading
  floor : shift = 0 ∨ (f.leading * 2 ^ shift : ℚ) ≤ y
  low : (significand - 1 / 2 : ℚ) * 2 ^ shift ≤ y
  high : y ≤ (significand + 1 / 2 : ℚ) * 2 ^ shift
  tie : (significand - 1 / 2 : ℚ) * 2 ^ shift = y ∨ y = (significand + 1 / 2 : ℚ) * 2 ^ shift →
    (shift * f.leading + significand) % 2 = 0

namespace CutTo

variable {y : ℚ} {shift significand : Nat}

theorem units (h : f.CutTo y shift significand) :
    (f.units (shift * f.leading + significand) : ℚ) = significand * 2 ^ shift := by
  exact_mod_cast units_place_add h.full h.le

theorem middle_le (h : f.CutTo y shift significand) {p : Nat}
    (hp : p + 1 = shift * f.leading + significand) :
    f.middle p ≤ y / 2 ^ f.unitPower ∧ (f.middle p = y / 2 ^ f.unitPower →
      (shift * f.leading + significand) % 2 = 0) := by
  have hunit : (0 : ℚ) < 2 ^ f.unitPower := by positivity
  have hlow := h.low
  rw [middle_eq, hp, div_le_div_iff_of_pos_right hunit, div_left_inj' hunit.ne', h.units]
  by_cases hsame : shift = 0 ∨ f.leading ≤ significand - 1
  · -- The neighbour has the same place.
    have hpos : 0 < significand := by
      rcases hsame with hs | hs
      · rw [hs] at hp
        omega
      · have := f.leading_pos
        omega
    have hbelow : (f.units p : ℚ) = (significand - 1) * 2 ^ shift := by
      have hle := h.le
      have hunits := units_place_add hsame (show significand - 1 ≤ 2 * f.leading by omega)
      rw [show p = shift * f.leading + (significand - 1) by omega, hunits]
      push_cast [Nat.cast_sub hpos]
      ring
    rw [hbelow]
    exact ⟨by linarith, fun heq => h.tie (.inl (by linarith))⟩
  · -- The significand is the smallest one of its width, and nothing has been cut off from below.
    rw [not_or] at hsame
    have hsmall : significand = f.leading := by
      have := h.full.resolve_left hsame.1
      omega
    have hbelow : (f.units p : ℚ) < significand * 2 ^ shift := by
      rw [← h.units, ← hp]
      exact_mod_cast f.units_strictMono (Nat.lt_succ_self p)
    have hfloor := h.floor.resolve_left hsame.1
    rw [← hsmall] at hfloor
    exact ⟨by linarith, fun heq => absurd heq (by linarith)⟩

theorem le_middle (h : f.CutTo y shift significand) :
    y / 2 ^ f.unitPower ≤ f.middle (shift * f.leading + significand) ∧
      (y / 2 ^ f.unitPower = f.middle (shift * f.leading + significand) →
        (shift * f.leading + significand) % 2 = 0) := by
  have hunit : (0 : ℚ) < 2 ^ f.unitPower := by positivity
  have hhigh := h.high
  have hplace : (2 ^ shift : ℚ) ≤ 2 ^ f.place (shift * f.leading + significand) :=
    pow_le_pow_right₀ (by norm_num) (le_place h.full)
  rw [middle_eq, units_succ, div_le_div_iff_of_pos_right hunit, div_left_inj' hunit.ne']
  push_cast
  rw [h.units]
  exact ⟨by linarith, fun heq => h.tie (.inr (by linarith))⟩

theorem nearest (h : f.CutTo y shift significand) :
    f.Nearest (y / 2 ^ f.unitPower) (min f.infinity (shift * f.leading + significand)) := by
  rcases Nat.lt_or_ge f.infinity (shift * f.leading + significand) with hlt | hle
  · -- The number lies beyond the middle to a pattern above infinity.
    obtain ⟨p, hp⟩ : ∃ p, p + 1 = shift * f.leading + significand :=
      ⟨_, Nat.sub_add_cancel (by omega)⟩
    have hvalue : f.value f.infinity ≤ f.value p := f.value_strictMono.monotone (by omega)
    have hmiddle := f.value_lt_middle p
    have hfar := (h.middle_le hp).1
    rw [Nat.min_eq_left hlt.le]
    refine (nearest_iff le_rfl).2 ⟨?_, fun h => absurd h (lt_irrefl _)⟩
    intro q hq
    have hq' : f.middle q < f.value f.infinity := hq ▸ f.middle_lt_value q
    exact ⟨by linarith, fun heq => absurd heq (by linarith)⟩
  · rw [Nat.min_eq_right hle]
    exact (nearest_iff hle).2 ⟨fun _ hp => h.middle_le hp, fun _ => h.le_middle⟩

end CutTo

theorem cutTo_round (hp : 1 < f.precision) (scaled : Nat) {den : Nat} (hd : 0 < den) :
    let shift := (scaled / den).log2 + 1 - f.precision
    f.CutTo (scaled / den) shift (nearestEven scaled (den * 2 ^ shift)) := by
  intro shift
  obtain ⟨hwidth, hfloor⟩ := scaled_bounds (Nat.lt_of_succ_lt hp) (scaled / den)
  change scaled / den / 2 ^ shift < _ at hwidth
  have hdiv : scaled / den / 2 ^ shift = scaled / (den * 2 ^ shift) := Nat.div_div_eq_div_mul ..
  obtain ⟨⟨hlow, hhigh⟩, htie⟩ := nearestEven_near scaled (Nat.mul_pos hd (Nat.two_pow_pos shift))
  have hnear := nearestEven_le scaled (den * 2 ^ shift)
  have hgreat := div_le_nearestEven scaled (den * 2 ^ shift)
  have hden : (0 : ℚ) < den := by exact_mod_cast hd
  have hpow : (0 : ℚ) < 2 ^ shift := by positivity
  have hcut : (scaled / (den * 2 ^ shift : Nat) : ℚ) * 2 ^ shift = scaled / den := by
    push_cast
    field_simp
  refine ⟨?_, by omega, ?_, ?_, ?_, ?_⟩
  · refine hfloor.imp_right fun h => ?_
    have hwhole : f.leading ≤ scaled / den / 2 ^ shift :=
      (Nat.le_div_iff_mul_le (Nat.two_pow_pos _)).2 h
    omega
  · refine hfloor.imp_right fun h => ?_
    calc (f.leading * 2 ^ shift : ℚ) ≤ (scaled / den : Nat) := by exact_mod_cast h
      _ ≤ scaled / den := Nat.cast_div_le
  · exact hcut ▸ mul_le_mul_of_nonneg_right hlow hpow.le
  · exact hcut ▸ mul_le_mul_of_nonneg_right hhigh hpow.le
  · intro h
    rw [← hcut, mul_left_inj' hpow.ne', mul_left_inj' hpow.ne'] at h
    rw [Nat.add_mod, Nat.mul_mod, leading_even hp, htie h, Nat.mul_zero]

/-- Rounding a quotient finds the pattern that the quotient is rounded to. -/
theorem round_nearest (hp : 1 < f.precision) (num : Nat) {den : Nat} (hd : 0 < den) :
    f.Nearest (num / den) (f.round num den) := by
  have hnear := (cutTo_round hp (num * 2 ^ f.unitPower) hd).nearest
  have hscale : ((num * 2 ^ f.unitPower : Nat) / den / 2 ^ f.unitPower : ℚ) = num / den := by
    push_cast
    field_simp
  rwa [hscale] at hnear

end Format

end DecoderExport.Number
