/-!
# Texts as bytes

Decoding of bytes to a text, and the bytes that a text takes.
-/

namespace DecoderExport.Text

/-- The text that the bytes encode in UTF-8, if they do. -/
def decodeUtf8? (bytes : List UInt8) : Option String :=
  String.fromUTF8? ⟨bytes.toArray⟩

/-- The bytes of a text in UTF-8. -/
def encodeUtf8 (s : String) : List UInt8 := s.toUTF8.data.toList

/-- How many bytes the characters take in UTF-8. -/
def byteCount : List Char → Nat
  | [] => 0
  | c :: s => c.utf8Size + byteCount s

end DecoderExport.Text
