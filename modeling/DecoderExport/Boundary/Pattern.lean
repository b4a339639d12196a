import DecoderExport.Text.Alphanumeric
import DecoderExport.Text.Blank

/-!
# Patterns of field filters

A filter may ask that a field match a pattern: characters, choices, repetitions, groups and sets of
characters. Only the acceptance of a pattern matters here. It is refused when it is malformed, when
it needs a table of characters beyond ASCII, and when it asks for word boundaries among all letters.
-/

namespace DecoderExport.Boundary

/-- Why a pattern is refused. -/
inductive PatternTrouble where
  | malformed
  | wordBoundary
  deriving DecidableEq, Repr

/-- The wording of a refused pattern. -/
def PatternTrouble.message : PatternTrouble → String
  | malformed => "error building NFA"
  | wordBoundary => "unsupported regex feature for DFAs: cannot build DFAs for regexes with " ++
      "Unicode word boundaries; switch to ASCII word boundaries, or heuristically enable " ++
      "Unicode word boundaries or use a different regex engine"

/-- A pattern. -/
inductive Pattern where
  | empty
  /-- Turns switches on or off for the rest of the group. -/
  | switch (changes : List (Char × Bool))
  | char (c : Char)
  /-- A character given by a code of two digits. -/
  | byte (c : Char)
  | anyChar
  /-- The beginning or the end of the text or of a line. -/
  | edge
  | wordBoundary
  /-- Digits, blanks or word characters, or all others. -/
  | family (isNegated : Bool)
  /-- The characters with a property. -/
  | property
  /-- A named set of ASCII characters, or all others. -/
  | named (isNegated : Bool)
  | set (isNegated : Bool) (members : List Pattern)
  | repeated (p : Pattern)
  | group (changes : List (Char × Bool)) (p : Pattern)
  | sequence (parts : List Pattern)
  | choice (branches : List Pattern)

namespace Pattern

/-- A sequence of parts. -/
def ofParts : List Pattern → Pattern
  | [] => empty
  | [p] => p
  | parts => sequence parts

/-- A choice between branches. -/
def ofBranches : List Pattern → Pattern
  | [p] => p
  | branches => choice branches

/-- Whether a repetition may follow a part. -/
def isRepeatable : Pattern → Bool
  | switch _ => false
  | _ => true

/-! ## Reading -/

/-- What is left to be read. -/
structure Cursor where
  rest : List Char
  /-- Whether blanks and remarks may stand between parts. -/
  spaced : Bool
  /-- The names of the groups so far. -/
  names : List (List Char)

/-- The text after blanks and remarks; a remark goes from a number sign to the end of the line. -/
def skipSpace (inRemark : Bool) : List Char → List Char
  | [] => []
  | c :: cs =>
    if inRemark then skipSpace (c ≠ '\n') cs
    else if Text.isBlank c then skipSpace false cs
    else if c = '#' then skipSpace true cs
    else c :: cs

namespace Cursor

/-- Goes on with another text. -/
def moved (k : Cursor) (rest : List Char) : Cursor := { k with rest }

/-- Passes over blanks and remarks where they may stand. -/
def skip (k : Cursor) : Cursor := if k.spaced then k.moved (skipSpace false k.rest) else k

/-- Goes on with another text after blanks and remarks. -/
def past (k : Cursor) (rest : List Char) : Cursor := (k.moved rest).skip

/-- Goes on under changed switches. -/
def switched (k : Cursor) (changes : List (Char × Bool)) : Cursor :=
  { k with spaced := (changes.lookup 'x').getD k.spaced }

end Cursor

/-- The value of a hexadecimal digit. -/
def hexValue? (c : Char) : Option Nat :=
  if c.isDigit then some (c.toNat - '0'.toNat)
  else if 'a' ≤ c && c ≤ 'f' then some (c.toNat - 'a'.toNat + 10)
  else if 'A' ≤ c && c ≤ 'F' then some (c.toNat - 'A'.toNat + 10)
  else none

/-- Reads so many hexadecimal digits. -/
def readHex : Nat → Nat → Cursor → Option (Nat × Cursor)
  | 0, value, k => some (value, k)
  | count + 1, value, k =>
    match k.rest with
    | [] => none
    | c :: cs => (hexValue? c).bind fun d => readHex count (16 * value + d) (k.past cs)

/-- Reads a character given by its code. -/
def readCode (digits : Nat) (k : Cursor) : Option (Pattern × Cursor) :=
  (readHex digits 0 k.skip).bind fun (value, k) =>
    if value.isValidChar then
      let c := Char.ofNat value
      some (if digits = 2 then byte c else char c, k)
    else none

/-- Whether a character stands for itself after a backslash. -/
def isEscapable (c : Char) : Bool := c.toNat < 0x80 && !c.isAlphanum && c ≠ '<' && c ≠ '>'

/-- Reads what follows a backslash. -/
def readEscape (k : Cursor) : Option (Pattern × Cursor) :=
  match k.rest with
  | [] => none
  | c :: cs =>
    let rest := k.moved cs
    if c = 'x' then readCode 2 rest
    else if c = 'u' then readCode 4 rest
    else if c = 'U' then readCode 8 rest
    else if c = 'p' || c = 'P' then
      match rest.skip.rest with
      | [] => none
      | d :: ds => if d = '\\' || d = '\x7b' then none else some (property, rest.past ds)
    else if ['d', 's', 'w'].contains c then some (family false, rest)
    else if ['D', 'S', 'W'].contains c then some (family true, rest)
    else if ['a', 'f', 'n', 'r', 't', 'v'].contains c then some (char c, rest)
    else if c = 'A' || c = 'z' then some (edge, rest)
    else if c = 'b' then if cs.head? = some '\x7b' then none else some (wordBoundary, rest)
    else if ['B', '<', '>'].contains c then some (wordBoundary, rest)
    else if isEscapable c then some (char c, rest)
    else none

/-- Reads switches up to the mark that ends them. Those after a minus sign are turned off. -/
def readSwitches (on dangling : Bool) (found : List (Char × Bool)) :
    List Char → Option (List (Char × Bool) × Char × List Char)
  | [] => none
  | c :: cs =>
    if c = ':' || c = ')' then if dangling then none else some (found, c, cs)
    else if c = '-' then if on then readSwitches false true found cs else none
    else if ['i', 'm', 's', 'U', 'u', 'R', 'x'].contains c && (found.lookup c).isNone then
      readSwitches on false ((c, on) :: found) cs
    else none

/-- Reads the name of a group with the bracket that ends it. -/
def readName (k : Cursor) : Option Cursor :=
  let name := k.rest.takeWhile (· ≠ '>')
  let isLetter (c : Char) := c = '_' || Text.isAlphanumeric c
  let isPart (c : Char) := isLetter c || c = '.' || c = '[' || c = ']'
  match name, k.rest.dropWhile (· ≠ '>') with
  | c :: cs, _ :: rest =>
    if isLetter c && !c.isDigit && cs.all isPart && !k.names.contains name then
      some { k with rest, names := name :: k.names }
    else none
  | _, _ => none

/-- How a group begins. -/
inductive Opening where
  | switches (changes : List (Char × Bool))
  | group (changes : List (Char × Bool))

/-- Reads what follows an opening bracket. -/
def readOpening (k : Cursor) : Option (Opening × Cursor) :=
  let k := k.skip
  match k.rest with
  | '?' :: '=' :: _ | '?' :: '!' :: _ | '?' :: '<' :: '=' :: _ | '?' :: '<' :: '!' :: _ => none
  | '?' :: 'P' :: '<' :: rest | '?' :: '<' :: rest =>
    (readName (k.moved rest)).map fun k => (.group [], k)
  | '?' :: rest =>
    match readSwitches true false [] rest with
    | some ([], ')', _) => none
    | some (changes, ')', rest) => some (.switches changes, k.moved rest)
    | some (changes, _, rest) => some (.group changes, k.moved rest)
    | none => none
  | _ => some (.group [], k)

/-- The names of the sets of ASCII characters. -/
def setNames : List String := [
  "alnum", "alpha", "ascii", "blank", "cntrl", "digit", "graph", "lower", "print", "punct", "space",
  "upper", "word", "xdigit"]

/-- Reads a named set after its opening bracket. -/
def readNamed : List Char → Option (Pattern × List Char)
  | ':' :: cs =>
    let isNegated := cs.head? = some '^'
    let cs := if isNegated then cs.drop 1 else cs
    match cs.dropWhile (· ≠ ':') with
    | ':' :: ']' :: rest =>
      if setNames.contains (String.ofList (cs.takeWhile (· ≠ ':'))) then
        some (named isNegated, rest)
      else none
    | _ => none
  | _ => none

/-- Reads one member of a set. -/
def readMember (k : Cursor) : Option (Pattern × Cursor) :=
  match k.rest with
  | [] => none
  | '\\' :: cs => readEscape (k.moved cs)
  | c :: cs => some (char c, k.moved cs)

/-- The character that a member stands for. -/
def single? : Pattern → Option Char
  | char c => some c
  | byte c => some c
  | _ => none

/-- Whether something can be a member of a set. -/
def isMember : Pattern → Bool
  | edge => false
  | wordBoundary => false
  | _ => true

/-- Reads a member of a set or a range of members. -/
def readRange (k : Cursor) : Option (List Pattern × Cursor) :=
  (readMember k).bind fun (first, k) =>
    let k := k.skip
    let alone := if first.isMember then some ([first], k) else none
    match k.rest with
    | [] => none
    | '-' :: cs =>
      match (k.past cs).rest with
      | [] => none
      | ']' :: _ | '-' :: _ => alone
      | _ =>
        (readMember (k.past cs)).bind fun (last, k) =>
          match first.single?, last.single? with
          | some a, some b => if a ≤ b then some ([first, last], k) else none
          | _, _ => none
    | _ => alone

/-- Reads the beginning of a set: whether it is negated, and the members that only the beginning of
a set can have. -/
def readSetOpening (k : Cursor) : Option (Bool × List Pattern × Cursor) :=
  let k := k.skip
  let isNegated := k.rest.head? = some '^'
  let k := if isNegated then k.past (k.rest.drop 1) else k
  let dashes := k.rest.takeWhile (· = '-')
  let k := if dashes.isEmpty then k else k.past (k.rest.drop dashes.length)
  match dashes.isEmpty, k.rest with
  | _, [] => none
  | true, ']' :: cs => if (k.past cs).rest.isEmpty then none
    else some (isNegated, [char ']'], k.past cs)
  | _, _ => some (isNegated, dashes.map char, k)

/-- Reads the members of a set to its end. -/
def readMembers : Nat → List Pattern → Cursor → Option (List Pattern × Cursor)
  | 0, _, _ => none
  | fuel + 1, members, k =>
    let k := k.skip
    match k.rest with
    | [] => none
    | ']' :: cs => some (members, k.moved cs)
    | '&' :: '&' :: cs | '-' :: '-' :: cs | '~' :: '~' :: cs =>
      readMembers fuel members (k.moved cs)
    | '[' :: cs =>
      match readNamed cs with
      | some (member, cs) => readMembers fuel (member :: members) (k.moved cs)
      | none =>
        (readSetOpening (k.moved cs)).bind fun (isNegated, first, k) =>
          (readMembers fuel first k).bind fun (inner, k) =>
            readMembers fuel (set isNegated inner :: members) k
    | _ => (readRange k).bind fun (more, k) => readMembers fuel (more ++ members) k

/-- Reads a pattern up to its end or to the bracket that closes it, given the branches and the parts
of the last branch so far, latest first. -/
def readParts : Nat → List Pattern → List Pattern → Cursor → Option (Pattern × Cursor)
  | 0, _, _, _ => none
  | fuel + 1, branches, parts, k =>
    let k := k.skip
    let branch := ofParts parts.reverse
    let go part k := readParts fuel branches (part :: parts) k
    match k.rest with
    | [] | ')' :: _ => some (ofBranches (branch :: branches).reverse, k)
    | '|' :: cs => readParts fuel (branch :: branches) [] (k.moved cs)
    | '(' :: cs =>
      match readOpening (k.moved cs) with
      | none => none
      | some (.switches changes, k) => go (switch changes) (k.switched changes)
      | some (.group changes, inner) =>
        match readParts fuel [] [] (inner.switched changes) with
        | some (p, ⟨')' :: cs, _, names⟩) => go (group changes p) ⟨cs, k.spaced, names⟩
        | _ => none
    | '[' :: cs =>
      (readSetOpening (k.moved cs)).bind fun (isNegated, first, k) =>
        (readMembers fuel first k).bind fun (members, k) => go (set isNegated members) k
    | '?' :: cs | '*' :: cs | '+' :: cs =>
      match parts with
      | p :: parts =>
        if p.isRepeatable then
          readParts fuel branches (repeated p :: parts)
            (k.moved (if cs.head? = some '?' then cs.drop 1 else cs))
        else none
      | [] => none
    | '\x7b' :: _ => none
    | '\\' :: cs => (readEscape (k.moved cs)).bind fun (part, k) => go part k
    | '.' :: cs => go anyChar (k.moved cs)
    | '^' :: cs | '$' :: cs => go edge (k.moved cs)
    | c :: cs => go (char c) (k.moved cs)

/-- Reads a whole pattern. -/
def read? (text : List Char) : Option Pattern :=
  match readParts (2 * text.length + 1) [] [] ⟨text, false, []⟩ with
  | some (p, k) => if k.rest.isEmpty then some p else none
  | none => none

/-! ## Checking -/

/-- How deep a pattern may be nested. -/
def maxDepth : Nat := 250

mutual

/-- How deep a pattern is nested. -/
def depth : Pattern → Nat
  | set _ members => depthAll members + (if members.length ≤ 1 then 1 else 2)
  | repeated p => p.depth + 1
  | group _ p => p.depth + 1
  | sequence parts => depthAll parts + 1
  | choice branches => depthAll branches + 1
  | _ => 0

/-- How deep the deepest of some patterns is nested. -/
def depthAll : List Pattern → Nat
  | [] => 0
  | p :: ps => max p.depth (depthAll ps)

end

/-- What a part of a pattern is read under, and what has been met before it. -/
structure Mode where
  ignoreCase : Bool := false
  /-- Whether characters beyond ASCII count as characters. -/
  unicode : Bool := true
  /-- Whether a word boundary among all letters has been asked for. -/
  metBoundary : Bool := false

/-- The mode under changed switches. -/
def Mode.switched (m : Mode) (changes : List (Char × Bool)) : Mode :=
  { m with
    ignoreCase := (changes.lookup 'i').getD m.ignoreCase
    unicode := (changes.lookup 'u').getD m.unicode }

mutual

/-- Whether a member of a set needs no table and, where only ASCII counts, stays within it. -/
def memberFits (unicode : Bool) : Pattern → Bool
  | char c => unicode || c.toNat < 0x80
  | byte c => unicode || c.toNat < 0x80
  | family isNegated => !unicode && !isNegated
  | named isNegated => unicode || !isNegated
  | set isNegated members => (unicode || !isNegated) && membersFit unicode members
  | _ => false

/-- Whether all members of a set fit. -/
def membersFit (unicode : Bool) : List Pattern → Bool
  | [] => true
  | p :: ps => memberFits unicode p && membersFit unicode ps

end

mutual

/-- The mode after a pattern; nothing when the pattern needs a table or leaves the characters. -/
def follow (m : Mode) : Pattern → Option Mode
  | empty => some m
  | switch changes => some (m.switched changes)
  | char _ => if m.ignoreCase && m.unicode then none else some m
  | byte c =>
    if m.unicode then if m.ignoreCase then none else some m
    else if c.toNat < 0x80 then some m
    else none
  | anyChar => if m.unicode then some m else none
  | edge => some m
  | wordBoundary => some { m with metBoundary := m.metBoundary || m.unicode }
  | set isNegated members =>
    if memberFits m.unicode (set isNegated members) && !(m.ignoreCase && m.unicode) then some m
    else none
  | family isNegated => if memberFits m.unicode (family isNegated) then some m else none
  | property => none
  | named _ => none
  | repeated p => p.follow m
  | group changes p =>
    (p.follow (m.switched changes)).map fun inner => { m with metBoundary := inner.metBoundary }
  | sequence parts => followAll m parts
  | choice branches => followAll m branches

/-- The mode after some patterns, one after the other. -/
def followAll (m : Mode) : List Pattern → Option Mode
  | [] => some m
  | p :: ps => (p.follow m).bind fun m => followAll m ps

end

/-- Checks a pattern. -/
def check (text : List Char) : Except PatternTrouble Unit :=
  match read? text with
  | none => .error .malformed
  | some p =>
    if maxDepth < p.depth then .error .malformed
    else
      match p.follow {} with
      | none => .error .malformed
      | some m => if m.metBoundary then .error .wordBoundary else .ok ()

end Pattern

end DecoderExport.Boundary
