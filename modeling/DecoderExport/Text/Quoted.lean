import DecoderExport.Text.Extending
import DecoderExport.Text.Printable

/-!
# Quoted texts

Two ways to show a text inside a message so that every character can be told apart. `quote` uses
double quotes and writes a character that cannot be shown as its code point in braces.
`quoteScript` is the way of the scripting host: it prefers single quotes and writes such a character
as a code of fixed width.
-/

namespace DecoderExport.Text

/-- The hexadecimal digits of a number, lower case, at least `width` of them. -/
def hex (width n : Nat) : List Char :=
  let digits := Nat.toDigits 16 n
  List.replicate (width - digits.length) '0' ++ digits

/-- One character inside double quotes. -/
def quoteChar (c : Char) : List Char :=
  if c = '\x00' then ['\\', '0']
  else if c = '\t' then ['\\', 't']
  else if c = '\r' then ['\\', 'r']
  else if c = '\n' then ['\\', 'n']
  else if c = '"' || c = '\\' then ['\\', c]
  else if ' ' ≤ c && c ≤ '~' then [c]
  else if isExtending c || isFiller c || !isPrintable17 c then
    '\\' :: 'u' :: '\x7b' :: (hex 1 c.toNat ++ ['\x7d'])
  else [c]

/-- A text in double quotes. -/
def quote (s : String) : String :=
  String.ofList ('"' :: (s.toList.flatMap quoteChar ++ ['"']))

/-- One character inside the given quotes, in the way of the scripting host. -/
def quoteScriptChar (mark c : Char) : List Char :=
  if c = mark || c = '\\' then ['\\', c]
  else if c = '\t' then ['\\', 't']
  else if c = '\r' then ['\\', 'r']
  else if c = '\n' then ['\\', 'n']
  else if ' ' ≤ c && c ≤ '~' then [c]
  else if c.toNat < 0x80 then '\\' :: 'x' :: hex 2 c.toNat
  else if isPrintable14 c then [c]
  else if c.toNat < 0x100 then '\\' :: 'x' :: hex 2 c.toNat
  else if c.toNat < 0x10000 then '\\' :: 'u' :: hex 4 c.toNat
  else '\\' :: 'U' :: hex 8 c.toNat

/-- A text in single quotes, or in double quotes when it holds a single quote and no double
quote. -/
def quoteScript (s : String) : String :=
  let mark := if s.toList.contains '\'' && !s.toList.contains '"' then '"' else '\''
  String.ofList (mark :: (s.toList.flatMap (quoteScriptChar mark) ++ [mark]))

end DecoderExport.Text
