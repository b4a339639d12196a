import DecoderExport.Text.CharSet

/-!
# Blank characters and trimming

The characters with the Unicode property `White_Space`, and the text that is left when they are
taken off both ends.
-/

namespace DecoderExport.Text

/-- The property `White_Space`. -/
def blanks : CharSet := [
  (0x9, 0xd), (0x20, 0x20), (0x85, 0x85), (0xa0, 0xa0), (0x1680, 0x1680), (0x2000, 0x200a),
  (0x2028, 0x2029), (0x202f, 0x202f), (0x205f, 0x205f), (0x3000, 0x3000)]

/-- Whether a character is blank. -/
def isBlank (c : Char) : Bool := blanks.holds c

/-- The text without blanks at its ends. -/
def trim (s : List Char) : List Char :=
  ((s.dropWhile isBlank).reverse.dropWhile isBlank).reverse

/-- Whether a text holds blanks only. -/
def isAllBlank (s : List Char) : Bool := s.all isBlank

end DecoderExport.Text
