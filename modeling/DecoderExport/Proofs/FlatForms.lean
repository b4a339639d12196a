import DecoderExport.Proofs.AlignmentCodec

/-!
# Pairs and flat forms

Flattening is one-to-one from the lists of pairs whose indices fit onto the flat arrays of even
length without a negative entry, and these are the arrays that are accepted from outside.
-/

namespace DecoderExport

/-- An entry that is not negative is what its index is narrowed to. -/
theorem ofNat_widen_of_nonneg {v : Int32} (h : 0 ≤ v.toInt) :
    Int32.ofNat (widen v).toNat = v := by
  rw [toNat_widen_of_nonneg h, ← Int32.toInt_inj]
  have hlt := v.toInt_lt
  rw [Int32.toInt_ofNat_of_lt (by omega)]
  omega

theorem widen_le_of_nonneg {v : Int32} (h : 0 ≤ v.toInt) : (widen v).toNat ≤ maxIndex := by
  rw [toNat_widen_of_nonneg h, maxIndex]
  have hlt := v.toInt_lt
  omega

/-- The two entries of a pair stand at twice its position. -/
theorem getElem?_entries {pairs : List AlignmentPair} {i : Nat} {p : AlignmentPair}
    (h : pairs[i]? = some p) :
    (pairs.flatMap AlignmentPair.entries)[2 * i]? = some (Int32.ofNat p.source.toNat) ∧
      (pairs.flatMap AlignmentPair.entries)[2 * i + 1]? = some (Int32.ofNat p.target.toNat) := by
  induction pairs generalizing i with
  | nil => cases h
  | cons q pairs ih =>
    cases i with
    | zero =>
      cases h
      exact ⟨rfl, rfl⟩
    | succ i => exact ih h

namespace Alignment

variable {ρ : Type}

theorem eq_of_flat {a b : Alignment} (h : a.flat = b.flat) : a = b := by
  cases a
  cases b
  cases h
  rfl

theorem length_pairsOf : ∀ values : List Int32, (pairsOf values).length = values.length / 2
  | [] => rfl
  | [_] => by simp [pairsOf]
  | _ :: _ :: rest => by
    simp only [pairsOf, List.length_cons, length_pairsOf rest]
    omega

theorem fits_pairsOf : ∀ {values : List Int32}, (∀ v ∈ values, 0 ≤ v.toInt) →
    ∀ p ∈ pairsOf values, p.Fits
  | [], _ => by simp [pairsOf]
  | [_], _ => by simp [pairsOf]
  | source :: target :: rest, h => by
    obtain ⟨hs, ht, hrest⟩ : _ ∧ _ ∧ _ := by simpa only [List.forall_mem_cons] using h
    rw [pairsOf, List.forall_mem_cons]
    exact ⟨⟨widen_le_of_nonneg hs, widen_le_of_nonneg ht⟩, fits_pairsOf hrest⟩

theorem entries_pairsOf : ∀ {values : List Int32}, values.length % 2 = 0 →
    (∀ v ∈ values, 0 ≤ v.toInt) → (pairsOf values).flatMap AlignmentPair.entries = values
  | [], _, _ => rfl
  | [_], heven, _ => by cases heven
  | source :: target :: rest, heven, h => by
    obtain ⟨hs, ht, hrest⟩ : _ ∧ _ ∧ _ := by simpa only [List.forall_mem_cons] using h
    simp only [List.length_cons] at heven
    rw [pairsOf, List.flatMap_cons, entries_pairsOf (by omega) hrest, AlignmentPair.entries,
      ofNat_widen_of_nonneg hs, ofNat_widen_of_nonneg ht]
    rfl

/-- Flattening the pairs of a flat form gives it back. -/
theorem encode_decode (a : Alignment) : encode (ρ := ρ) a.decode = .ok a := by
  obtain ⟨b, hb, hflat⟩ := encode_ok (ρ := ρ) (fits_pairsOf a.nonneg)
  rw [entries_pairsOf a.even a.nonneg] at hflat
  rw [decode, hb, eq_of_flat hflat]

theorem flat_of_ofFlat_ok {values : List Int32} {a : Alignment}
    (h : ofFlat (ρ := ρ) values = .ok a) : a.flat = values := by
  unfold ofFlat at h
  split at h
  · split at h
    · cases h
      rfl
    · cases h
  · cases h

/-- An odd length is reported first, then the negative entry that comes first. -/
theorem ofFlat_error {values : List Int32} {f : Fault ρ} (h : ofFlat values = .error f) :
    values.length % 2 = 1 ∧ f = .malformedAlignment (.oddLength values.length) ∨
      values.length % 2 = 0 ∧ ∃ offset v, values[offset]? = some v ∧ v.toInt < 0 ∧
        (∀ j < offset, ∀ u, values[j]? = some u → 0 ≤ u.toInt) ∧
        f = .malformedAlignment (.negativeIndex v.toInt offset) := by
  unfold ofFlat at h
  split at h
  · rename_i heven
    split at h
    · cases h
    · rename_i offset hoffset
      cases h
      obtain ⟨hlt, hneg, hbefore⟩ := List.findIdx?_eq_some_iff_getElem.1 hoffset
      refine .inr ⟨heven, offset, values[offset], List.getElem?_eq_getElem hlt, by simpa using hneg,
        ?_, ?_⟩
      · intro j hj u hu
        obtain ⟨hjlt, rfl⟩ := List.getElem?_eq_some_iff.1 hu
        simpa using hbefore j hj
      · rw [List.getElem?_eq_getElem hlt]
        rfl
  · rename_i hodd
    cases h
    exact .inl ⟨by omega, rfl⟩

theorem exists_ofFlat_ok_iff {values : List Int32} :
    (∃ a, ofFlat (ρ := ρ) values = .ok a) ↔
      values.length % 2 = 0 ∧ ∀ v ∈ values, 0 ≤ v.toInt := by
  constructor
  · rintro ⟨a, ha⟩
    rw [← flat_of_ofFlat_ok ha]
    exact ⟨a.even, a.nonneg⟩
  · rintro ⟨heven, hnonneg⟩
    exact ⟨⟨values, heven, hnonneg⟩, ofFlat_flat ⟨values, heven, hnonneg⟩⟩

/-- Lists of pairs flatten if every index fits, source and target of each pair in turn, and are read
back from what they flatten to. Flat arrays are accepted if they have even length and no negative
entry, and then they are what the pairs read from them flatten to. What is accepted is what a list
of pairs flattens to, so every flat form has even length and no negative entry. -/
theorem pairs_and_flat_forms :
    (∀ pairs : List AlignmentPair,
      ((∃ a, encode (ρ := ρ) pairs = .ok a) ↔
        ∀ p ∈ pairs, p.source.toNat ≤ maxIndex ∧ p.target.toNat ≤ maxIndex) ∧
      ∀ a, encode (ρ := ρ) pairs = .ok a →
        a.flat.length = 2 * pairs.length ∧
        (∀ i p, pairs[i]? = some p →
          a.flat[2 * i]?.map Int32.toInt = some (p.source.toNat : Int) ∧
          a.flat[2 * i + 1]?.map Int32.toInt = some (p.target.toNat : Int)) ∧
        ofFlat (ρ := ρ) a.flat = .ok a ∧ a.decode = pairs) ∧
    (∀ values : List Int32,
      ((∃ a, ofFlat (ρ := ρ) values = .ok a) ↔
        values.length % 2 = 0 ∧ ∀ v ∈ values, 0 ≤ v.toInt) ∧
      (∀ a, ofFlat (ρ := ρ) values = .ok a →
        a.flat = values ∧ a.decode.length = a.pairCount ∧ encode (ρ := ρ) a.decode = .ok a) ∧
      (∀ f : Fault ρ, ofFlat values = .error f →
        values.length % 2 = 1 ∧ f = .malformedAlignment (.oddLength values.length) ∨
        values.length % 2 = 0 ∧ ∃ offset v, values[offset]? = some v ∧ v.toInt < 0 ∧
          (∀ j < offset, ∀ u, values[j]? = some u → 0 ≤ u.toInt) ∧
          f = .malformedAlignment (.negativeIndex v.toInt offset)) ∧
      ((∃ a, ofFlat (ρ := ρ) values = .ok a) ↔
        ∃ pairs a, encode (ρ := ρ) pairs = .ok a ∧ a.flat = values)) ∧
    ∀ a, a = .empty ∨ (∃ pairs, encode (ρ := ρ) pairs = .ok a) ∨
        (∃ values, ofFlat (ρ := ρ) values = .ok a) →
      a.flat.length % 2 = 0 ∧ ∀ v ∈ a.flat, 0 ≤ v.toInt := by
  refine ⟨?_, ?_, fun a _ => ⟨a.even, a.nonneg⟩⟩
  · intro pairs
    refine ⟨⟨fun ⟨a, ha⟩ => fits_of_encodeFrom_ok ha, fun h => ?_⟩, ?_⟩
    · obtain ⟨a, ha, -⟩ := encode_ok (ρ := ρ) h
      exact ⟨a, ha⟩
    · intro a ha
      have hfits := fits_of_encodeFrom_ok ha
      have hflat := flat_of_encode_ok ha
      refine ⟨by rw [hflat, length_entries], ?_, ofFlat_flat a, ?_⟩
      · intro i p hp
        obtain ⟨hs, ht⟩ := hfits p (List.mem_of_getElem? hp)
        obtain ⟨hsource, htarget⟩ := getElem?_entries hp
        rw [hflat, hsource, htarget, Option.map_some, Option.map_some, toInt_ofNat_of_le hs,
          toInt_ofNat_of_le ht]
        exact ⟨rfl, rfl⟩
      · rw [decode, hflat, pairsOf_entries hfits]
  · intro values
    refine ⟨exists_ofFlat_ok_iff, ?_, fun f hf => ofFlat_error hf, ?_, ?_⟩
    · intro a ha
      exact ⟨flat_of_ofFlat_ok ha, length_pairsOf a.flat, encode_decode a⟩
    · rintro ⟨a, ha⟩
      exact ⟨a.decode, a, encode_decode a, flat_of_ofFlat_ok ha⟩
    · rintro ⟨pairs, a, -, rfl⟩
      exact ⟨a, ofFlat_flat a⟩

end Alignment

end DecoderExport
