import DecoderExport.Proofs.PrintedNumber
import DecoderExport.Proofs.Spelling
import Mathlib.Data.List.Induction

/-!
# Number literals in the place of an index

A literal is plain if it is digits alone and its number has 64 bits. Plain literals are the digits
of their numbers, so they are read as indices; every other literal is refused, however long it is,
and whatever its sign, its fraction and its power are.
-/

namespace DecoderExport.Json

theorem exists_digitChar {c : Char} (h : c.isDigit = true) : ∃ n < 10, c = Nat.digitChar n := by
  obtain ⟨hlow, hhigh⟩ : 48 ≤ c.toNat ∧ c.toNat ≤ 57 := by
    simp only [Char.isDigit, ge_iff_le, Bool.and_eq_true, decide_eq_true_eq] at h
    exact h
  refine ⟨c.toNat - 48, by omega, ?_⟩
  rw [← Char.ofNat_toNat c]
  generalize c.toNat = n at hlow hhigh ⊢
  interval_cases n <;> rfl

/-- Digits without a leading zero are the digits of the number that they write. -/
theorem decimalDigits_ofDigitChars {ds : List Char} (hne : ds ≠ [])
    (hd : ∀ c ∈ ds, c.isDigit = true) (hzero : ds.head? = some '0' → ds = ['0']) :
    Number.decimalDigits (Nat.ofDigitChars 10 ds 0) = ds := by
  -- The last digit is the remainder by ten, so the induction takes digits off at the end.
  induction ds using List.reverseRecOn with
  | nil => exact absurd rfl hne
  | append_singleton ds c ih =>
    obtain ⟨hds, hc⟩ := List.forall_mem_append.1 hd
    obtain ⟨n, hn, rfl⟩ := exists_digitChar (hc c (List.mem_singleton_self c))
    have hlast : Nat.ofDigitChars 10 (ds ++ [Nat.digitChar n]) 0 =
        10 * Nat.ofDigitChars 10 ds 0 + n := by
      rw [Nat.ofDigitChars_append, Nat.ofDigitChars_cons_digitChar_of_lt_ten hn]
      rfl
    rw [hlast]
    unfold Number.decimalDigits at ih ⊢
    rw [Nat.toDigits_eq_if (by decide)]
    cases ds with
    | nil =>
      rw [if_pos (by simpa using hn)]
      simp
    | cons d ds =>
      have hhead : d ≠ '0' := by
        rintro rfl
        exact absurd (congrArg List.length (hzero rfl)) (by simp)
      have hinit := ih (by simp) hds (fun h => absurd (Option.some.inj h) hhead)
      have hpos : Nat.ofDigitChars 10 (d :: ds) 0 ≠ 0 := by
        intro h0
        rw [h0] at hinit
        exact hhead (List.cons.inj hinit).1.symm
      rw [if_neg (by omega), Nat.mul_add_div (by decide), Nat.mul_add_mod,
        Nat.div_eq_of_lt hn, Nat.mod_eq_of_lt hn, Nat.add_zero, hinit]

namespace Literal

variable {l : Literal} {s t : List Char}

/-- The number that the digits before the point write. -/
def number (l : Literal) : Nat := Nat.ofDigitChars 10 l.whole.chars 0

/-- Whether a literal is digits alone, of a number of 64 bits. -/
structure Plain (l : Literal) : Prop where
  positive : l.negative = false
  whole : l.fraction = none
  bare : l.power = none
  small : l.number < 2 ^ 64

/-- A literal as it stands. -/
def Written (l : Literal) : Spelling := fun s t => s = l.chars ++ t

/-- A literal where a value stands, which ends before the text goes on. -/
def At (l : Literal) (s : List Char) : Prop := ∃ t, l.Written s t ∧ Stops t

/-- The index that a literal writes. -/
def index (l : Literal) : UInt64 := UInt64.ofNat l.number

theorem Plain.toNat_index (h : l.Plain) : l.index.toNat = l.number :=
  Nat.mod_eq_of_lt h.small

theorem Plain.chars_eq (h : l.Plain) : l.chars = Number.decimalDigits l.number := by
  have hdigits := decimalDigits_ofDigitChars l.whole.nonempty l.whole.digits l.noLeadingZero
  simp only [chars, unsigned, tail, h.positive, h.whole, h.bare, number, hdigits,
    Bool.false_eq_true, if_false, Option.elim_none, List.nil_append, List.append_nil]

/-- A plain literal spells its index. -/
theorem Plain.written_eq (h : l.Plain) : l.Written = Index l.index := by
  funext s t
  simp only [Written, Index, h.chars_eq, h.toNat_index]

/-- Digits that are all absorbed write a number that fits the significand. -/
theorem lt_of_absorb {ds : List Char} {significand n : Nat} (hs : significand < significandBound)
    (h : absorb significand ds = (n, [])) :
    Nat.ofDigitChars 10 ds significand < significandBound := by
  induction ds generalizing significand with
  | nil => exact hs
  | cons c ds ih =>
    rw [ofDigitChars_cons]
    simp only [absorb] at h
    split at h
    · exact ih ‹_› h
    · cases h

theorem float?_ne_unsigned (negative : Bool) (significand : Nat) (exponent : Int) (n : Nat) :
    float? negative significand exponent ≠ some (.unsigned n) := by
  unfold float?
  cases Number.scale? significand exponent with
  | none => exact nofun
  | some pattern => exact nofun

theorem powered?_ne_unsigned (negative : Bool) (significand : Nat) (start : Int) (p : Power)
    (n : Nat) : powered? negative significand start p ≠ some (.unsigned n) := by
  unfold powered?
  split
  · exact float?_ne_unsigned _ _ _ _
  · split <;> exact nofun

/-- Only a plain literal has the value of an index. -/
theorem plain_of_value? {n : Nat} (h : l.value? = some (.unsigned n)) : l.Plain := by
  unfold value? at h
  cases hp : l.power with
  | some p =>
    rw [hp] at h
    exact absurd h (powered?_ne_unsigned _ _ _ _ _)
  | none =>
    simp only [hp] at h
    split at h
    · rename_i hcond
      obtain ⟨hfraction, hdropped⟩ : l.fraction = none ∧ l.head.2 = 0 := by simpa using hcond
      have hnegative : l.negative = false := by
        cases hn : l.negative with
        | false => rfl
        | true =>
          rw [hn, Option.some.injEq] at h
          unfold integerNumeral at h
          simp only [Bool.not_true, Bool.false_eq_true, if_false] at h
          split at h <;> cases h
      refine ⟨hnegative, hfraction, hp, ?_⟩
      have hrest : (absorb 0 l.whole.chars).2 = [] := List.length_eq_zero_iff.1 hdropped
      exact lt_of_absorb (by decide) (Prod.ext rfl hrest)
    · exact absurd h (float?_ne_unsigned _ _ _ _)

/-- Any literal but a plain one is refused in the place of an index. -/
theorem index_fails (h : ¬ l.Plain) : Fails Json.index (fun _ => True) l.At where
  opens := by
    rintro s ⟨t, rfl, -⟩
    exact l.opens t
  read := by
    rintro s' s hs ⟨t, rfl, ht⟩
    have hread := readNumber_literal "usize" l hs ht
    show ∃ e, readIndex s' = .error e ∧ True
    unfold readIndex
    cases hv : l.value? with
    | none =>
      rw [hv] at hread
      obtain ⟨left, hread⟩ := hread
      exact ⟨_, by rw [hread], trivial⟩
    | some n =>
      rw [hv] at hread
      rw [show readNumber "usize" s' = .ok (n, t) from hread]
      cases n with
      | unsigned n => exact absurd (plain_of_value? hv) h
      | negative n => exact ⟨_, rfl, trivial⟩
      | float x => exact ⟨_, rfl, trivial⟩

end Literal

end DecoderExport.Json
