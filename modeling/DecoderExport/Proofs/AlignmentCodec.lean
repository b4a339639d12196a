import DecoderExport.Alignment

/-!
# Flattening and its inverse

Pairs flatten exactly if every index fits the transfer width, and then the flat array lists source
and target of each pair in turn, is accepted from outside, and stands for the same pairs. Otherwise
the first index in reading order that does not fit is reported.
-/

namespace DecoderExport

/-- Whether both indices of a pair fit the transfer width. -/
def AlignmentPair.Fits (p : AlignmentPair) : Prop :=
  p.source.toNat ≤ maxIndex ∧ p.target.toNat ≤ maxIndex

/-- The index on one side of a pair. -/
def AlignmentPair.index (p : AlignmentPair) : Side → UInt64
  | .source => p.source
  | .target => p.target

/-- The entries of a pair in the transfer width. -/
def AlignmentPair.entries (p : AlignmentPair) : List Int32 :=
  [Int32.ofNat p.source.toNat, Int32.ofNat p.target.toNat]

theorem toInt_ofNat_of_le {index : UInt64} (h : index.toNat ≤ maxIndex) :
    (Int32.ofNat index.toNat).toInt = index.toNat :=
  Int32.toInt_ofNat_of_lt (by simp only [maxIndex] at h; omega)

/-- An entry that is not negative stays the same number when it is widened. -/
theorem toNat_widen_of_nonneg {entry : Int32} (h : 0 ≤ entry.toInt) :
    (widen entry).toNat = entry.toInt.toNat := by
  have hle : 0 ≤ entry.toInt64 := by
    rw [Int64.le_iff_toInt_le, Int32.toInt_toInt64]
    exact h
  rw [widen, Int64.toNat_toUInt64_of_le hle, ← Int32.toInt_toInt64]
  rfl

/-- An index that fits is what its entry is widened to. -/
theorem widen_ofNat_of_le {index : UInt64} (h : index.toNat ≤ maxIndex) :
    widen (Int32.ofNat index.toNat) = index := by
  have hint := toInt_ofNat_of_le h
  rw [← UInt64.toNat_inj, toNat_widen_of_nonneg (by omega), hint, Int.toNat_natCast]

-- The cast extends the sign: an entry below zero would become one of the largest indices.
example : widen (-1) = 18446744073709551615 := by decide

theorem narrow?_of_le {index : UInt64} (h : index.toNat ≤ maxIndex) :
    narrow? index = some (Int32.ofNat index.toNat) := if_pos h

theorem le_of_narrow? {index : UInt64} {v : Int32} (h : narrow? index = some v) :
    index.toNat ≤ maxIndex := by
  unfold narrow? at h
  split at h
  · assumption
  · cases h

theorem lt_of_narrow?_eq_none {index : UInt64} (h : narrow? index = none) :
    maxIndex < index.toNat := by
  simpa [narrow?] using h

namespace Alignment

variable {ρ : Type}

theorem encodeFrom_ok {pairs : List AlignmentPair} (h : ∀ p ∈ pairs, p.Fits) (position : Nat) :
    ∃ a, encodeFrom (ρ := ρ) position pairs = .ok a ∧
      a.flat = pairs.flatMap AlignmentPair.entries := by
  induction pairs generalizing position with
  | nil => exact ⟨empty, rfl, rfl⟩
  | cons p pairs ih =>
    obtain ⟨⟨hs, ht⟩, hr⟩ := List.forall_mem_cons.1 h
    obtain ⟨a, ha, hflat⟩ := ih hr (position + 1)
    unfold encodeFrom
    split
    · rename_i hn; rw [narrow?_of_le hs] at hn; cases hn
    · rename_i hn; rw [narrow?_of_le ht] at hn; cases hn
    · rename_i source target hsource htarget
      rw [narrow?_of_le hs, Option.some.injEq] at hsource
      rw [narrow?_of_le ht, Option.some.injEq] at htarget
      rw [ha]
      exact ⟨_, rfl, by simp [cons, hflat, AlignmentPair.entries, hsource, htarget]⟩

theorem fits_of_encodeFrom_ok {pairs : List AlignmentPair} {position : Nat} {a : Alignment}
    (h : encodeFrom (ρ := ρ) position pairs = .ok a) : ∀ p ∈ pairs, p.Fits := by
  induction pairs generalizing position a with
  | nil => simp
  | cons p pairs ih =>
    unfold encodeFrom at h
    split at h
    · cases h
    · cases h
    · rename_i hs ht
      split at h
      · cases h
      · rename_i b hb
        exact List.forall_mem_cons.2 ⟨⟨le_of_narrow? hs, le_of_narrow? ht⟩, ih hb⟩

/-- The first index in reading order that does not fit is the one that is reported. -/
theorem encodeFrom_error {pairs : List AlignmentPair} {position : Nat} {f : Fault ρ}
    (h : encodeFrom position pairs = .error f) :
    ∃ (k : Nat) (p : AlignmentPair) (side : Side), pairs[k]? = some p ∧
      f = .narrowing (position + k) side (p.index side).toNat maxIndex ∧
      maxIndex < (p.index side).toNat ∧ (side = .target → p.source.toNat ≤ maxIndex) ∧
      ∀ j < k, ∀ q, pairs[j]? = some q → q.Fits := by
  induction pairs generalizing position with
  | nil => simp [encodeFrom] at h
  | cons p pairs ih =>
    unfold encodeFrom at h
    split at h
    · rename_i hn
      cases h
      exact ⟨0, p, .source, rfl, rfl, lt_of_narrow?_eq_none hn, by simp, by omega⟩
    · rename_i hs hn
      cases h
      exact ⟨0, p, .target, rfl, rfl, lt_of_narrow?_eq_none hn, fun _ => le_of_narrow? hs,
        by omega⟩
    · rename_i hs ht
      split at h
      · rename_i hr
        cases h
        obtain ⟨k, q, side, hk, rfl, hlarge, hsource, hbefore⟩ := ih hr
        refine ⟨k + 1, q, side, hk, by rw [Nat.add_assoc, Nat.add_comm 1], hlarge, hsource, ?_⟩
        intro j hj before hbj
        cases j with
        | zero => cases hbj; exact ⟨le_of_narrow? hs, le_of_narrow? ht⟩
        | succ j => exact hbefore j (by omega) before hbj
      · cases h

theorem encode_ok {pairs : List AlignmentPair} (h : ∀ p ∈ pairs, p.Fits) :
    ∃ a, encode (ρ := ρ) pairs = .ok a ∧ a.flat = pairs.flatMap AlignmentPair.entries :=
  encodeFrom_ok h 0

/-- Every refusal is a narrowing fault that shows an index that does not fit. -/
theorem encode_error {pairs : List AlignmentPair} {f : Fault ρ} (h : encode pairs = .error f) :
    ∃ (k : Nat) (p : AlignmentPair) (side : Side), pairs[k]? = some p ∧
      f = .narrowing k side (p.index side).toNat maxIndex ∧
      maxIndex < (p.index side).toNat ∧ (side = .target → p.source.toNat ≤ maxIndex) ∧
      ∀ j < k, ∀ q, pairs[j]? = some q → q.Fits := by
  simpa only [Nat.zero_add] using encodeFrom_error h

theorem first_misfit_unique {pairs : List AlignmentPair} {k k' : Nat}
    {p p' : AlignmentPair} {side side' : Side} (hk : pairs[k]? = some p)
    (hk' : pairs[k']? = some p') (hlarge : maxIndex < (p.index side).toNat)
    (hlarge' : maxIndex < (p'.index side').toNat)
    (hside : side = .target → p.source.toNat ≤ maxIndex)
    (hside' : side' = .target → p'.source.toNat ≤ maxIndex)
    (hfirst : ∀ j < k, ∀ q, pairs[j]? = some q → q.Fits)
    (hfirst' : ∀ j < k', ∀ q, pairs[j]? = some q → q.Fits) : k = k' ∧ p = p' ∧ side = side' := by
  have misfit {q : AlignmentPair} {s : Side} (h : maxIndex < (q.index s).toNat) : ¬ q.Fits := by
    rintro ⟨hs, ht⟩
    cases s
    · exact Nat.not_le_of_lt h hs
    · exact Nat.not_le_of_lt h ht
  rcases Nat.lt_trichotomy k k' with hlt | rfl | hlt
  · exact absurd (hfirst' k hlt p hk) (misfit hlarge)
  · rw [hk, Option.some.injEq] at hk'
    subst hk'
    refine ⟨rfl, rfl, ?_⟩
    cases side <;> cases side'
    · rfl
    · exact absurd (hside' rfl) (Nat.not_le_of_lt hlarge)
    · exact absurd (hside rfl) (Nat.not_le_of_lt hlarge')
    · rfl
  · exact absurd (hfirst k' hlt p' hk') (misfit hlarge')

theorem flat_of_encode_ok {pairs : List AlignmentPair} {a : Alignment}
    (h : encode (ρ := ρ) pairs = .ok a) : a.flat = pairs.flatMap AlignmentPair.entries := by
  obtain ⟨b, hb, hflat⟩ := encode_ok (ρ := ρ) (fits_of_encodeFrom_ok h)
  rw [h, Except.ok.injEq] at hb
  rw [hb, hflat]

theorem encode_error_of_not_fits {pairs : List AlignmentPair} (h : ¬ ∀ p ∈ pairs, p.Fits) :
    ∃ f : Fault ρ, encode pairs = .error f := by
  cases ha : encode (ρ := ρ) pairs with
  | error f => exact ⟨f, rfl⟩
  | ok a => exact absurd (fits_of_encodeFrom_ok ha) h

/-- The refusal does not depend on what classes may raise. -/
theorem encode_error_any {pairs : List AlignmentPair} {f : Fault ρ} (h : encode pairs = .error f)
    (ρ' : Type) :
    ∃ k side n, f = .narrowing k side n maxIndex ∧
      encode (ρ := ρ') pairs = .error (.narrowing k side n maxIndex) := by
  obtain ⟨k, p, side, hk, rfl, hlarge, hside, hfirst⟩ := encode_error h
  have hmisfit : ¬ ∀ q ∈ pairs, q.Fits := by
    intro hfits
    obtain ⟨a, ha, -⟩ := encode_ok (ρ := ρ) hfits
    rw [ha] at h
    cases h
  obtain ⟨g, hg⟩ := encode_error_of_not_fits (ρ := ρ') hmisfit
  obtain ⟨k', p', side', hk', rfl, hlarge', hside', hfirst'⟩ := encode_error hg
  obtain ⟨rfl, rfl, rfl⟩ :=
    first_misfit_unique hk hk' hlarge hlarge' hside hside' hfirst hfirst'
  exact ⟨k, side, _, rfl, hg⟩

theorem length_entries (pairs : List AlignmentPair) :
    (pairs.flatMap AlignmentPair.entries).length = 2 * pairs.length := by
  induction pairs with
  | nil => rfl
  | cons p pairs ih =>
    simp only [List.flatMap_cons, AlignmentPair.entries, List.length_append, List.length_cons,
      List.length_nil] at ih ⊢
    omega

/-- Entries that fit read back as the pairs they come from. -/
theorem pairsOf_entries {pairs : List AlignmentPair} (h : ∀ p ∈ pairs, p.Fits) :
    pairsOf (pairs.flatMap AlignmentPair.entries) = pairs := by
  induction pairs with
  | nil => rfl
  | cons p pairs ih =>
    obtain ⟨⟨hs, ht⟩, hr⟩ := List.forall_mem_cons.1 h
    simp only [List.flatMap_cons, AlignmentPair.entries, List.cons_append, List.nil_append,
      pairsOf, widen_ofNat_of_le hs, widen_ofNat_of_le ht, ih hr]

/-- An alignment is accepted from outside as it stands. -/
theorem ofFlat_flat (a : Alignment) : ofFlat (ρ := ρ) a.flat = .ok a := by
  have hn : a.flat.findIdx? (·.toInt < 0) = none := by
    rw [List.findIdx?_eq_none_iff]
    intro v hv
    have := a.nonneg v hv
    simpa using this
  unfold ofFlat
  rw [dif_pos a.even]
  split
  · rfl
  · rename_i hs; rw [hn] at hs; cases hs

end Alignment

end DecoderExport
