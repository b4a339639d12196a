import DecoderExport.Json.Tree
import DecoderExport.Signature

/-!
# Values of the object model

Objects and arrays are shared by reference. Each carries the running number of its creation as its
`stamp`: two values are the same object when their stamps agree, whatever they hold. Comparison by
value (`Value.same`) and the JSON form (`Value.toJson`) do not look at stamps.
-/

namespace DecoderExport

open DecoderExport.Number (Single)
open DecoderExport.Json (Tree)

/-- A value of the object model. -/
inductive Value where
  | null
  | text (s : String)
  | float (x : Single)
  | ints (stamp : Nat) (values : List Int32)
  /-- An array whose elements are objects of the named class. -/
  | array (stamp : Nat) (cls : String) (elements : List Value)
  /-- An object of the named class with its fields in the order of declaration. -/
  | object (stamp : Nat) (cls : String) (fields : List (String × Value))

namespace Value

/-- The number of the creation that a value stems from. Values that are not shared have none. -/
def stamp? : Value → Option Nat
  | ints stamp _ => some stamp
  | array stamp _ _ => some stamp
  | object stamp _ _ => some stamp
  | _ => none

/-- Whether two values are the same object or the same array. -/
def sameObject (a b : Value) : Bool := a.stamp?.isSome && a.stamp? = b.stamp?

/-- Whether a value is null. -/
def isNull : Value → Bool
  | null => true
  | _ => false

/-- The text of a text value. -/
def text? : Value → Option String
  | text s => some s
  | _ => none

/-- The number of a float value. -/
def float? : Value → Option Single
  | float x => some x
  | _ => none

/-- The integers of an integer array. -/
def ints? : Value → Option (List Int32)
  | ints _ values => some values
  | _ => none

/-- The elements of an object array. -/
def elements? : Value → Option (List Value)
  | array _ _ elements => some elements
  | _ => none

/-- The class of an object. -/
def class? : Value → Option String
  | object _ cls _ => some cls
  | _ => none

/-- The field of an object; of several fields with one name the first. -/
def field? (v : Value) (name : String) : Option Value :=
  match v with
  | object _ _ fields => fields.lookup name
  | _ => none

mutual

/-- Comparison by value: classes, names and contents, floats as numbers. -/
def same : Value → Value → Bool
  | null, null => true
  | text s, text t => s = t
  | float x, float y => x.same y
  | ints _ xs, ints _ ys => xs = ys
  | array _ c xs, array _ d ys => c = d && sameElements xs ys
  | object _ c fs, object _ d gs => c = d && sameFields fs gs
  | _, _ => false

/-- Comparison of two lists of elements. -/
def sameElements : List Value → List Value → Bool
  | [], [] => true
  | x :: xs, y :: ys => x.same y && sameElements xs ys
  | _, _ => false

/-- Comparison of two lists of fields. -/
def sameFields : List (String × Value) → List (String × Value) → Bool
  | [], [] => true
  | (n, x) :: fs, (m, y) :: gs => n = m && x.same y && sameFields fs gs
  | _, _ => false

end

/-- How a float is shown: with the fewest digits of the 32-bit number, read as a 64-bit number.
A number that is not finite is shown by name. -/
def floatJson (x : Single) : Tree :=
  if x.isNaN then .string "NaN"
  else if x.isInfinite then .string (if x.negative then "-Infinity" else "Infinity")
  else if x.isZero then .double (x.convert Number.double)
  else .double ((Number.Decimal.shortest .away Number.single x.pattern).toBinary Number.double
    x.negative)

mutual

/-- The JSON form of a value. The fields of an object come in the order of their names. -/
def toJson : Value → Tree
  | null => .null
  | text s => .string s
  | float x => floatJson x
  | ints _ values => .array (values.map fun v => .int v.toInt)
  | array _ _ elements => .array (elementsJson elements)
  | object _ _ fields => .ofMembers (fieldsJson fields)

/-- The JSON forms of elements. -/
def elementsJson : List Value → List Tree
  | [] => []
  | x :: xs => x.toJson :: elementsJson xs

/-- The JSON forms of fields. -/
def fieldsJson : List (String × Value) → List (String × Tree)
  | [] => []
  | (n, x) :: fs => (n, x.toJson) :: fieldsJson fs

end

/-- Whether a value may be passed where a kind is declared. -/
def fits : Value → ParamKind → Bool
  | text _, .text => true
  | float _, .float => true
  | ints _ _, .ints => true
  | array _ cls _, .objects wanted => wanted = cls
  | _, _ => false

end Value

end DecoderExport
