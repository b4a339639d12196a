import DecoderExport.Host
import DecoderExport.Objects.ClassDef

/-!
# The object model

An object model knows classes by name and counts the lookups it has served. A `World` is an object
model together with the number of objects made so far, from which each new object and each new array
takes its stamp; several models may take turns in one world.
-/

namespace DecoderExport

/-- A registry of classes that counts lookups. No two classes have one name. -/
structure ObjectModel where
  classes : List ClassDef
  classLookups : Nat
  constructorLookups : Nat

namespace ObjectModel

/-- A model without classes. -/
def empty : ObjectModel := ⟨[], 0, 0⟩

/-- The class with a name. -/
def class? (m : ObjectModel) (name : String) : Option ClassDef :=
  m.classes.find? (·.name = name)

/-- The model with one more class, which takes the place of a class of the same name. -/
def register (m : ObjectModel) (cls : ClassDef) : ObjectModel :=
  { m with classes := cls :: m.classes.filter (·.name ≠ cls.name) }

/-- A model with the default classes. -/
def withDefaultClasses : ObjectModel :=
  (empty.register hypothesisClass).register translationClass

end ObjectModel

/-- An object model and the number of objects made so far. -/
structure World where
  model : ObjectModel
  minted : Nat

/-- The first constructor of a class with a signature. -/
def ClassDef.constructor? (cls : ClassDef) (signature : Signature) : Option Constructor :=
  cls.constructors.find? (·.signature = signature)

/-- The value that is passed as an argument. -/
def Arg.toValue : Arg Value → Value
  | .text s => .text s
  | .float x => .float x
  | .object v => v

/-- Puts a value into the first field with a name. -/
def assign (name : String) (value : Value) : List (String × Value) → List (String × Value)
  | [] => []
  | (n, v) :: fields =>
    if n = name then (n, value) :: fields else (n, v) :: assign name value fields

/-- The fields of a new object: null, until the arguments are assigned in order. -/
def initialFields (declared assigned : List String) (args : List Value) : List (String × Value) :=
  (assigned.zip args).foldl (fun fields (name, value) => assign name value fields)
    (declared.map fun name => (name, .null))

/-- The first argument that does not fit its parameter, counted from the given index. -/
def firstMisfit (index : Nat) : List Value → List ParamKind → Option (Nat × ParamKind)
  | v :: args, kind :: kinds =>
    if v.fits kind then firstMisfit (index + 1) args kinds else some (index, kind)
  | _, _ => none

/-- What a class has against the arguments of one of its constructors. -/
def Constructor.objection? (c : Constructor) (args : List Value) : Option (Rejection Empty) :=
  if args.length ≠ c.signature.arity then
    some (.argumentCount c.signature.arity args.length)
  else
    match firstMisfit 0 args c.signature.params with
    | some (index, kind) => some (.argumentKind index kind)
    | none =>
      match c.validator with
      | none => none
      | some validator =>
        match validator args with
        | .ok () => none
        | .error message => some (.refused message)

/-- The index of the first element that is no object of a class. -/
def firstForeign? (cls : String) (elements : List Value) : Option Nat :=
  elements.findIdx? fun v => v.class? ≠ some cls

namespace World

/-- Looks a class up by name. -/
def findClass (name : String) (w : World) : Reply World Empty ClassDef :=
  ((w.model.class? name).elim (.error (.linkage name "" .classNotRegistered)) .ok,
    { w with model.classLookups := w.model.classLookups + 1 })

/-- Looks a constructor of a class up by signature. -/
def findConstructor (cls : ClassDef) (signature : Signature) (w : World) :
    Reply World Empty Constructor :=
  ((cls.constructor? signature).elim
      (.error (.linkage cls.name signature.display .noSuchConstructor)) .ok,
    { w with model.constructorLookups := w.model.constructorLookups + 1 })

/-- The world after one more object has been made. -/
def mint (w : World) : World := { w with minted := w.minted + 1 }

/-- Builds an object. -/
def newObject (cls : ClassDef) (c : Constructor) (args : List (Arg Value)) (w : World) :
    Reply World Empty Value :=
  let args := args.map Arg.toValue
  match c.objection? args with
  | some why => (.error (.construction cls.name why), w)
  | none => (.ok (.object w.minted cls.name (initialFields cls.fields c.assigns args)), w.mint)

/-- Builds an array of integers. -/
def newInts (values : List Int32) (w : World) : Reply World Empty Value :=
  (.ok (.ints w.minted values), w.mint)

/-- Builds an array of objects of one class. -/
def newArray (cls : ClassDef) (elements : List Value) (w : World) : Reply World Empty Value :=
  match firstForeign? cls.name elements with
  | some index => (.error (.construction cls.name (.elementClass index cls.name)), w)
  | none => (.ok (.array w.minted cls.name elements), w.mint)

instance : Host World Value ClassDef Constructor Empty where
  findClass := findClass
  findConstructor := findConstructor
  newObject := newObject
  newInts := newInts
  newArray := newArray

end World

instance toStringEmpty : ToString Empty := ⟨nofun⟩

end DecoderExport
