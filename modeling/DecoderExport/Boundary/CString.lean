import DecoderExport.Boundary.Status
import DecoderExport.Text.Utf8

/-!
# Texts across the boundary

A text crosses the boundary as bytes that end at the first zero byte, so a text that itself holds a
zero byte cannot cross it.
-/

namespace DecoderExport.Boundary

/-- Bytes without a zero byte. -/
structure CString where
  bytes : List UInt8
  noNul : 0 ∉ bytes
  deriving DecidableEq

namespace CString

/-- The bytes up to the first zero byte. -/
def cut (bytes : List UInt8) : CString where
  bytes := bytes.takeWhile (· ≠ 0)
  noNul h := by
    have := List.all_takeWhile (l := bytes) (p := (· ≠ 0))
    rw [List.all_eq_true] at this
    simpa using this 0 h

/-- The bytes of a text, unless a zero byte is among them. -/
def ofText? (s : String) : Option CString :=
  if h : 0 ∈ Text.encodeUtf8 s then none else some ⟨Text.encodeUtf8 s, h⟩

/-- The text that an argument spells. -/
def text (s : CString) : Except Failure String :=
  match Text.decodeUtf8? s.bytes with
  | some text => .ok text
  | none => .error ⟨.encodingError, "Invalid UTF-8 in input string"⟩

end CString

/-- An argument that may be absent. -/
abbrev Argument := Option CString

/-- The text that hands an error over. -/
def reportable (message : String) : String :=
  if (CString.ofText? message).isSome then message else "Error message contained null byte"

end DecoderExport.Boundary
