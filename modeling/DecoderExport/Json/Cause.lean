import DecoderExport.Json.Tree

/-!
# Why a JSON text is refused

A `Cause` is the reason without the place. Causes of the syntax come first, then those that a
well-formed value can have because another kind of value was wanted.
-/

namespace DecoderExport.Json

/-- The value that stood where another kind was wanted. -/
inductive Found where
  | null
  | bool (value : Bool)
  | unsigned (value : Nat)
  /-- The integer `-value`. -/
  | negative (value : Nat)
  | float (value : Number.Double)
  | string (value : String)
  | sequence
  | map

/-- The reason why a text is refused. -/
inductive Cause where
  | endOfValue
  | endOfList
  | endOfObject
  | endOfString
  | colonWanted
  | listCommaOrEndWanted
  | objectCommaOrEndWanted
  | valueWanted
  | badWord
  | keyNotString
  | trailingComma
  | trailingCharacters
  | badNumber
  | numberOutOfRange
  | badEscape
  | loneSurrogate
  | endOfSurrogatePair
  | controlCharacter
  | wrongType (found : Found) (wanted : String)
  | wrongValue (found : Found) (wanted : String)
  | missingField (name : String)
  | duplicateField (name : String)
  | wrongLength (length : Nat) (wanted : String)

/-- How a message names a value. -/
def Found.text : Found → String
  | .null => "null"
  | .bool b => s!"boolean `{b}`"
  | .unsigned n => s!"integer `{n}`"
  | .negative n => s!"integer `-{n}`"
  | .float x => "floating point `" ++ String.ofList (floatText doubleStyle x) ++ "`"
  | .string s => "string " ++ Text.quote s
  | .sequence => "sequence"
  | .map => "map"

/-- The wording of a cause. -/
def Cause.message : Cause → String
  | .endOfValue => "EOF while parsing a value"
  | .endOfList => "EOF while parsing a list"
  | .endOfObject => "EOF while parsing an object"
  | .endOfString => "EOF while parsing a string"
  | .colonWanted => "expected `:`"
  | .listCommaOrEndWanted => "expected `,` or `]`"
  | .objectCommaOrEndWanted => "expected `,` or `\x7d`"
  | .valueWanted => "expected value"
  | .badWord => "expected ident"
  | .keyNotString => "key must be a string"
  | .trailingComma => "trailing comma"
  | .trailingCharacters => "trailing characters"
  | .badNumber => "invalid number"
  | .numberOutOfRange => "number out of range"
  | .badEscape => "invalid escape"
  | .loneSurrogate => "lone leading surrogate in hex escape"
  | .endOfSurrogatePair => "unexpected end of hex escape"
  | .controlCharacter => "control character (\\u0000-\\u001F) found while parsing a string"
  | .wrongType found wanted => s!"invalid type: {found.text}, expected {wanted}"
  | .wrongValue found wanted => s!"invalid value: {found.text}, expected {wanted}"
  | .missingField name => s!"missing field `{name}`"
  | .duplicateField name => s!"duplicate field `{name}`"
  | .wrongLength length wanted => s!"invalid length {length}, expected {wanted}"

end DecoderExport.Json
