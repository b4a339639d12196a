/-!
# Arrays across the boundary

An array crosses the boundary as a pointer to its first number and the count of its numbers. Memory
without numbers has a pointer too, which leads nowhere but is not null, so a caller can tell an
empty array from none.
-/

namespace DecoderExport.Boundary

/-- A pointer to numbers that lie one behind the other. -/
inductive IntPointer where
  | null
  /-- Aligned, but no number may be read there. -/
  | dangling
  | numbers (first : Int32) (behind : List Int32)
  deriving DecidableEq

namespace IntPointer

/-- The pointer that is left of a block of memory whose owner has given it up. -/
def ofBlock : List Int32 → IntPointer
  | [] => .dangling
  | first :: behind => .numbers first behind

/-- What may be read from a pointer on. -/
def readable : IntPointer → List Int32
  | .null | .dangling => []
  | .numbers first behind => first :: behind

end IntPointer

/-- A pointer to the first number, and how many there are. -/
structure IntArray where
  data : IntPointer
  len : Nat
  deriving DecidableEq

namespace IntArray

/-- Moves numbers to a caller, who owns them from then on. -/
def allocate (values : List Int32) : IntArray := ⟨.ofBlock values, values.length⟩

/-- The numbers that a caller reads, unless some of them may not be read. -/
def values? (a : IntArray) : Option (List Int32) :=
  if a.len ≤ a.data.readable.length then some (a.data.readable.take a.len) else none

end IntArray

end DecoderExport.Boundary
