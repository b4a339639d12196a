import DecoderExport.Scripting.Datum

/-!
# Comparison of data

Numbers compare by value whatever their type, texts by their characters, and lists and tuples item
by item. Hypotheses are equal when their contents are, and every other datum equals itself only.
Data without an order refuse to be ordered. A list may hold itself, so comparisons go down to a
certain depth only.
-/

namespace DecoderExport.Scripting

open DecoderExport.Number (Double)

/-- The six comparisons. -/
inductive Comparison where
  | eq
  | ne
  | lt
  | le
  | gt
  | ge
  deriving DecidableEq, Repr

/-- The sign of a comparison. -/
def Comparison.sign : Comparison → String
  | eq => "=="
  | ne => "!="
  | lt => "<"
  | le => "<="
  | gt => ">"
  | ge => ">="

/-- Whether an order satisfies a comparison. -/
def Comparison.holds : Comparison → Ordering → Bool
  | eq, o => o = .eq
  | ne, o => o ≠ .eq
  | lt, o => o = .lt
  | le, o => o ≠ .gt
  | gt, o => o = .gt
  | ge, o => o ≠ .lt

/-- The value of a number: an infinity, or as a multiple of the smallest unit of a 64-bit number. -/
inductive Magnitude where
  | infinity (negative : Bool)
  | units (n : Int)
  deriving DecidableEq, Repr

/-- The order of two values. -/
def Magnitude.order : Magnitude → Magnitude → Ordering
  | units m, units n => compare m n
  | infinity a, infinity b => compare b a
  | infinity a, units _ => if a then .lt else .gt
  | units _, infinity b => if b then .gt else .lt

/-- The value of a whole number. -/
def Magnitude.ofInt (n : Int) : Magnitude :=
  units (n * Int.ofNat (Nat.pow 2 Number.double.unitPower))

/-- The value of a 64-bit number, unless it is none. -/
def Magnitude.ofDouble? (x : Double) : Option Magnitude :=
  if x.isNaN then none
  else if x.isInfinite then some (infinity x.negative)
  else
    let size : Int := Number.double.units x.pattern
    some (units (if x.negative then -size else size))

namespace Datum

/-- Whether a datum is a number. -/
def isNumber : Datum → Bool
  | bool _ => true
  | int _ _ => true
  | float _ _ => true
  | _ => false

/-- The value of a number. -/
def magnitude? : Datum → Option Magnitude
  | bool b => some (.ofInt b.toInt)
  | int _ n => some (.ofInt n)
  | float _ x => Magnitude.ofDouble? x
  | _ => none

/-- Whether two hypotheses have the same contents, scores as numbers. -/
def sameCandidate (c d : Candidate) : Bool :=
  c.text = d.text && c.score.same d.score && c.features = d.features

/-- The order of two numbers, unless one of them is none. -/
def numberOrder? (a b : Datum) : Option Ordering :=
  a.magnitude?.bind fun m => b.magnitude?.map m.order

/-- How deeply data may be nested. -/
def depthLimit : Nat := 1000

/-- Whether two lists have equal items. An item always equals itself. -/
def equalItems (equal : Datum → Datum → Option Bool) : List Datum → List Datum → Option Bool
  | [], [] => some true
  | x :: xs, y :: ys => do
    if x.isSame y || (← equal x y) then equalItems equal xs ys else some false
  | _, _ => some false

/-- Whether two data are equal, as far down as a depth allows to look. -/
def equalWithin (lists : Lists) : Nat → Datum → Datum → Option Bool
  | 0, _, _ => none
  | depth + 1, a, b =>
    match a, b with
    | text _ s, text _ t => some (s = t)
    | list x, list y =>
      let xs := lists.items x
      let ys := lists.items y
      if xs.length = ys.length then equalItems (equalWithin lists depth) xs ys else some false
    | tuple _ xs, tuple _ ys => equalItems (equalWithin lists depth) xs ys
    | hypothesis _ c, hypothesis _ d => some (sameCandidate c d)
    | bound _ r x, bound _ q y => some (r = q && x.isSame y)
    | a, b =>
      some (if a.isNumber && b.isNumber then numberOrder? a b = some .eq else a.isSame b)

/-- The refusal to compare data that are nested too deeply. -/
def tooDeepToCompare : Raised := .tooDeep "in comparison"

/-- Whether two data are equal. -/
def equal (lists : Lists) (a b : Datum) : Except Raised Bool :=
  match equalWithin lists depthLimit a b with
  | some same => .ok same
  | none => .error tooDeepToCompare

/-- The refusal to order two data. -/
def unordered (op : Comparison) (a b : Datum) : Raised :=
  .typeError (s!"'{op.sign}' not supported between instances of '{a.typeName}' and " ++
    s!"'{b.typeName}'")

/-- Whether two lists are ordered as asked: by the first items that differ, else by length. -/
def orderedItems (lists : Lists) (op : Comparison) (ordered : Datum → Datum → Except Raised Bool) :
    List Datum → List Datum → Except Raised Bool
  | x :: xs, y :: ys => do
    if x.isSame y || (← x.equal lists y) then orderedItems lists op ordered xs ys else ordered x y
  | [], [] => .ok (op.holds .eq)
  | [], _ :: _ => .ok (op.holds .lt)
  | _ :: _, [] => .ok (op.holds .gt)

/-- Whether two data are ordered as asked, as far down as a depth allows to look. -/
def orderedWithin (lists : Lists) (op : Comparison) : Nat → Datum → Datum → Except Raised Bool
  | 0, _, _ => .error tooDeepToCompare
  | depth + 1, a, b =>
    match a, b with
    | text _ s, text _ t => .ok (op.holds (if s < t then .lt else if s = t then .eq else .gt))
    | list x, list y =>
      orderedItems lists op (orderedWithin lists op depth) (lists.items x) (lists.items y)
    | tuple _ xs, tuple _ ys => orderedItems lists op (orderedWithin lists op depth) xs ys
    | a, b =>
      if a.isNumber && b.isNumber then .ok ((numberOrder? a b).any op.holds)
      else .error (unordered op a b)

/-- The outcome of a comparison. -/
def compared (lists : Lists) (op : Comparison) (a b : Datum) : Except Raised Bool :=
  match op with
  | .eq => a.equal lists b
  | .ne => (a.equal lists b).map (!·)
  | _ => orderedWithin lists op depthLimit a b

/-- Whether a datum has a say in a comparison with another one. -/
def answers (op : Comparison) (a b : Datum) : Bool :=
  match a, b with
  | text _ _, text _ _ => true
  | list _, list _ => true
  | tuple _ _, tuple _ _ => true
  | hypothesis _ _, hypothesis _ _ => op = .eq || op = .ne
  | bound _ _ _, bound _ _ _ => op = .eq || op = .ne
  | float _ _, b => b.isNumber
  | a, b =>
    if a.isNumber then b.isNumber && b.classOf ≠ .standard "float"
    else (op = .eq || op = .ne) && a.isSame b

end Datum

end DecoderExport.Scripting
