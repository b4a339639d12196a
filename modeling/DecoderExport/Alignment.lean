import DecoderExport.Fault

/-!
# The flat form of an alignment

Alignment pairs travel as one array of 32-bit integers, source and target of each pair in turn. An
`Alignment` is such an array with the proof that it stands for pairs: its length is even and no
entry is negative.
-/

namespace DecoderExport

/-- The largest index that the transfer width holds. -/
def maxIndex : Nat := 2147483647

/-- The flat form of an alignment. -/
structure Alignment where
  flat : List Int32
  even : flat.length % 2 = 0
  nonneg : ∀ v ∈ flat, 0 ≤ v.toInt
  deriving DecidableEq

/-- An index in the transfer width, if it fits. -/
def narrow? (index : UInt64) : Option Int32 :=
  if index.toNat ≤ maxIndex then some (Int32.ofNat index.toNat) else none

theorem toInt_of_narrow? {index : UInt64} {v : Int32} (h : narrow? index = some v) :
    v.toInt = index.toNat := by
  unfold narrow? at h
  split at h
  · rename_i hle
    simp only [Option.some.injEq] at h
    rw [← h]
    exact Int32.toInt_ofNat_of_lt (by simp only [maxIndex] at hle; omega)
  · simp at h

/-- An entry in the width of an index. The sign is extended. -/
def widen (entry : Int32) : UInt64 := entry.toInt64.toUInt64

namespace Alignment

/-- The flat form of no pairs. -/
def empty : Alignment := ⟨[], rfl, by simp⟩

/-- The flat form with one more pair in front. -/
def cons (source target : Int32) (hs : 0 ≤ source.toInt) (ht : 0 ≤ target.toInt)
    (a : Alignment) : Alignment where
  flat := source :: target :: a.flat
  even := by have := a.even; simp only [List.length_cons]; omega
  nonneg := by
    intro v hv
    rcases List.mem_cons.1 hv with rfl | hv
    · exact hs
    · rcases List.mem_cons.1 hv with rfl | hv
      · exact ht
      · exact a.nonneg v hv

/-- The flat form of pairs, the first of which has the given position. The first index that does not
fit is reported, the source of a pair before its target. -/
def encodeFrom {ρ : Type} (position : Nat) : List AlignmentPair → Except (Fault ρ) Alignment
  | [] => .ok empty
  | p :: pairs =>
    match hs : narrow? p.source, ht : narrow? p.target with
    | none, _ => .error (.narrowing position .source p.source.toNat maxIndex)
    | some _, none => .error (.narrowing position .target p.target.toNat maxIndex)
    | some source, some target =>
      match encodeFrom (position + 1) pairs with
      | .error e => .error e
      | .ok a =>
        .ok (a.cons source target (by rw [toInt_of_narrow? hs]; omega)
          (by rw [toInt_of_narrow? ht]; omega))

/-- The flat form of pairs. -/
def encode {ρ : Type} (pairs : List AlignmentPair) : Except (Fault ρ) Alignment :=
  encodeFrom 0 pairs

/-- Takes over a flat array from outside. An odd length is reported before a negative entry. -/
def ofFlat {ρ : Type} (values : List Int32) : Except (Fault ρ) Alignment :=
  if even : values.length % 2 = 0 then
    match h : values.findIdx? (·.toInt < 0) with
    | none => .ok ⟨values, even, by simpa [List.findIdx?_eq_none_iff] using h⟩
    | some offset =>
      .error (.malformedAlignment (.negativeIndex ((values[offset]?).elim 0 (·.toInt)) offset))
  else .error (.malformedAlignment (.oddLength values.length))

/-- The pairs of a flat array, two entries each; an entry without partner is left out. -/
def pairsOf : List Int32 → List AlignmentPair
  | source :: target :: rest =>
    ⟨widen source, widen target⟩ :: pairsOf rest
  | _ => []

/-- The pairs that a flat form stands for. -/
def decode (a : Alignment) : List AlignmentPair := pairsOf a.flat

/-- The number of pairs. -/
def pairCount (a : Alignment) : Nat := a.flat.length / 2

/-- Whether there are no pairs. -/
def isEmpty (a : Alignment) : Bool := a.flat.isEmpty

end Alignment

end DecoderExport
