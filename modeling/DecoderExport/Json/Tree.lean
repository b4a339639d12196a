import DecoderExport.Number.Decimal
import DecoderExport.Text.Quoted

/-!
# JSON trees and their compact text

`Tree.render` writes a tree without blanks. In strings only the quote, the backslash and the control
characters are escaped. Numbers of both floating point widths are written with their fewest digits;
a number that is not finite is written as `null`.
-/

namespace DecoderExport.Json

open DecoderExport.Number (Single Double)

/-- A JSON value that is about to be written. -/
inductive Tree where
  | null
  | bool (value : Bool)
  | int (value : Int)
  | single (value : Single)
  | double (value : Double)
  | string (value : String)
  | array (items : List Tree)
  | object (members : List (String × Tree))

/-- How 32-bit numbers are written: in place for leading exponents from -6 to 12. -/
def singleStyle : Number.Style := ⟨.even, ⟨some (-6, 12), true, 1⟩⟩

/-- How 64-bit numbers are written: in place for leading exponents from -5 to 15. -/
def doubleStyle : Number.Style := ⟨.even, ⟨some (-5, 15), true, 1⟩⟩

/-- The text of a number, or `null` for one that is not finite. -/
def floatText {f : Number.Format} (style : Number.Style) (x : Number.Binary f) : List Char :=
  if x.isFinite then style.text x else ['n', 'u', 'l', 'l']

/-- One character inside a JSON string. -/
def escapeChar (c : Char) : List Char :=
  if c = '"' || c = '\\' then ['\\', c]
  else if c = '\x08' then ['\\', 'b']
  else if c = '\x0c' then ['\\', 'f']
  else if c = '\n' then ['\\', 'n']
  else if c = '\r' then ['\\', 'r']
  else if c = '\t' then ['\\', 't']
  else if c < ' ' then '\\' :: 'u' :: Text.hex 4 c.toNat
  else [c]

/-- A JSON string. -/
def stringText (s : String) : List Char := '"' :: (s.toList.flatMap escapeChar ++ ['"'])

mutual

/-- The compact text of a tree. -/
def Tree.chars : Tree → List Char
  | .null => ['n', 'u', 'l', 'l']
  | .bool true => ['t', 'r', 'u', 'e']
  | .bool false => ['f', 'a', 'l', 's', 'e']
  | .int n => (toString n).toList
  | .single x => floatText singleStyle x
  | .double x => floatText doubleStyle x
  | .string s => stringText s
  | .array items => '[' :: (itemChars items ++ [']'])
  | .object members => '\x7b' :: (memberChars members ++ ['\x7d'])

/-- The items of an array with commas between them. -/
def itemChars : List Tree → List Char
  | [] => []
  | [t] => t.chars
  | t :: rest => t.chars ++ ',' :: itemChars rest

/-- The members of an object with commas between them. -/
def memberChars : List (String × Tree) → List Char
  | [] => []
  | [(key, t)] => stringText key ++ ':' :: t.chars
  | (key, t) :: rest => stringText key ++ ':' :: t.chars ++ ',' :: memberChars rest

end

/-- The compact text of a tree. -/
def Tree.render (t : Tree) : String := String.ofList t.chars

/-- Members in order of their keys with one more put in; a key that is there already gets the new
value. -/
def putMember (key : String) (t : Tree) : List (String × Tree) → List (String × Tree)
  | [] => [(key, t)]
  | (k, u) :: rest =>
    if key < k then (key, t) :: (k, u) :: rest
    else if key = k then (key, t) :: rest
    else (k, u) :: putMember key t rest

/-- The object with the given members, sorted by key; of two members with one key the later one
stays. -/
def Tree.ofMembers (members : List (String × Tree)) : Tree :=
  .object (members.foldl (fun sorted (key, t) => putMember key t sorted) [])

end DecoderExport.Json
