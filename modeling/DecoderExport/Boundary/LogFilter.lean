import DecoderExport.Boundary.Pattern
import DecoderExport.Text.Utf8

/-!
# Log filters

A filter is a list of directives with commas between them. A directive names a level, a target, or
both with `=` between them; a target may be narrowed to a span in brackets, and a span to a field in
braces, which may ask for a value. Only the acceptance of a filter matters here, for nothing that is
logged is an answer.
-/

namespace DecoderExport.Boundary

/-- Why a filter is refused. -/
inductive FilterTrouble where
  | directive
  | level
  | field (why : PatternTrouble)
  deriving DecidableEq, Repr

/-- The wording of a refused filter. -/
def FilterTrouble.message : FilterTrouble → String
  | directive => "invalid filter directive"
  | level => "error parsing level filter: expected one of \"off\", \"error\", \"warn\", " ++
      "\"info\", \"debug\", \"trace\", or a number 0-5"
  | field why => "invalid field filter: " ++ why.message

namespace LogFilter

/-- The value of decimal digits, if there are only digits and at least one. -/
def number? (digits : List Char) : Option Nat :=
  if !digits.isEmpty && digits.all Char.isDigit then
    some (digits.foldl (fun n c => 10 * n + (c.toNat - '0'.toNat)) 0)
  else none

/-- The number that a level spells; a plus sign may stand in front. -/
def levelNumber? : List Char → Option Nat
  | '+' :: digits => number? digits
  | digits => number? digits

/-- The names of the levels. -/
def levelNames : List String := ["off", "error", "warn", "info", "debug", "trace"]

/-- Whether a text names a level, in any case or as a number. The empty text stands for a level. -/
def isLevel (s : List Char) : Bool :=
  s.isEmpty || (levelNumber? s).any (· ≤ 5) ||
    levelNames.contains (String.ofList (s.map Char.toLower))

/-- A text without the sign in front of it. -/
def dropSign : List Char → List Char
  | '+' :: cs => cs
  | '-' :: cs => cs
  | cs => cs

/-- Whether a text begins like a number and has nothing left when the number ends. -/
def isUnsigned (s : List Char) : Bool :=
  let whole := s.takeWhile Char.isDigit
  let rest := s.dropWhile Char.isDigit
  let places := if rest.head? = some '.' then (rest.drop 1).takeWhile Char.isDigit else []
  let rest := if rest.head? = some '.' then (rest.drop 1).dropWhile Char.isDigit else rest
  !(whole.isEmpty && places.isEmpty) &&
    match rest with
    | [] => true
    | c :: cs => (c = 'e' || c = 'E') && (number? (dropSign cs)).isSome

/-- Whether a text is a number: digits with a point and an exponent, or the name of a number that
has no digits. -/
def isNumber (s : List Char) : Bool :=
  let s := dropSign s
  isUnsigned s || ["inf", "infinity", "nan"].contains (String.ofList (s.map Char.toLower))

/-- Checks what a filter asks of a field: a name, or a name and a value with `=` between them. A
value that is no number is a pattern. -/
def checkField (s : List Char) : Except FilterTrouble Unit :=
  match s.splitOn '=' with
  | _ :: value :: _ =>
    if isNumber value then .ok () else (Pattern.check value).mapError FilterTrouble.field
  | _ => .ok ()

/-- The characters from an offset in bytes on. -/
def dropBytes : Nat → List Char → List Char
  | 0, cs => cs
  | _, [] => []
  | n, c :: cs => dropBytes (n - c.utf8Size) cs

/-- The first characters, so many bytes of them. -/
def takeBytes : Nat → List Char → List Char
  | 0, _ => []
  | _, [] => []
  | n, c :: cs => c :: takeBytes (n - c.utf8Size) cs

/-- Which part of a directive is being read. Those that end in a slice hold the offset in bytes at
which it begins. -/
inductive Part where
  | start
  | levelOrTarget
  | span
  | field (offset : Nat)
  | fields
  | target
  | level (offset : Nat)
  deriving DecidableEq, Repr

/-- Whether a directive may begin with a character. -/
def begins (c : Char) : Bool := c = '-' || c = ':' || c = '_' || Text.isAlphanumeric c

/-- The part that follows when a character at an offset of a directive has been read. -/
def Part.next (directive : List Char) (offset : Nat) (c : Char) :
    Part → Except FilterTrouble Part
  | start =>
    if c = '[' then .ok span else if begins c then .ok levelOrTarget else .error .directive
  | levelOrTarget =>
    .ok (if c = '=' then level (offset + 1) else if c = '[' then span else levelOrTarget)
  | span => .ok (if c = ']' then target else if c = '\x7b' then field (offset + 1) else span)
  | field begun =>
    if c ≠ '\x7d' then .ok (field begun)
    else if begun = offset then .error .directive
    else (checkField (takeBytes (offset - begun) (dropBytes begun directive))).map fun _ => fields
  | fields => if c = ']' then .ok target else .error .directive
  | target => if c = '=' then .ok (level (offset + 1)) else .error .directive
  | level begun => .ok (level begun)

/-- The part in which a text ends, beginning at an offset of a directive. -/
def Part.run (directive : List Char) (part : Part) (offset : Nat) :
    List Char → Except FilterTrouble Part
  | [] => .ok part
  | c :: cs =>
    (part.next directive offset c).bind fun next => next.run directive (offset + c.utf8Size) cs

/-- Checks one directive. Offsets count from its first character that is not blank, but levels and
fields are taken from the directive with its blanks. -/
def checkDirective (directive : List Char) : Except FilterTrouble Unit :=
  match Part.start.run directive 0 (Text.trim directive) with
  | .ok .levelOrTarget | .ok .target => .ok ()
  | .ok (.level offset) =>
    if isLevel (dropBytes offset directive) then .ok () else .error .level
  | .ok _ => .error .directive
  | .error why => .error why

/-- Checks a filter. Directives without characters are passed over. -/
def check (filter : String) : Except FilterTrouble Unit :=
  ((filter.toList.splitOn ',').filter (! ·.isEmpty)).forM checkDirective

end LogFilter

end DecoderExport.Boundary
