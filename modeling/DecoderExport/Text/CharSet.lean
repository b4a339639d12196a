/-!
# Sets of characters

A set of characters is a list of closed ranges of code points.
-/

namespace DecoderExport.Text

/-- A list of closed ranges of code points. -/
abbrev CharSet := List (Nat × Nat)

/-- Whether a character lies in one of the ranges. -/
def CharSet.holds (s : CharSet) (c : Char) : Bool :=
  s.any fun (first, last) => first ≤ c.toNat && c.toNat ≤ last

end DecoderExport.Text
