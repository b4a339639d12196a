import DecoderExport.Scripting.Construction

/-!
# Routines

What routines demand of their arguments before they run, and what those of them do that every datum
offers and that neither read nor write attributes.
-/

namespace DecoderExport.Scripting

/-- The refusal to call something that cannot be called. -/
def notCallable (d : Datum) : Raised := .typeError s!"'{d.typeName}' object is not callable"

/-- The operations that take nothing besides the datum. -/
def bareOperations : List String := [
  "__abs__", "__bool__", "__float__", "__hash__", "__index__", "__int__", "__invert__",
  "__iter__", "__len__", "__neg__", "__next__", "__pos__", "__repr__", "__str__"]

/-- The operations that take what they like. -/
def freeOperations : List String := ["__call__", "__get__", "__init__"]

/-- The methods that take nothing besides the datum. -/
def bareMethods : List String := [
  "__dir__", "__getnewargs__", "__getstate__", "__reduce__", "__reversed__", "__sizeof__",
  "__subclasses__", "alignment_pairs", "clear", "copy", "mro", "resolve", "reverse"]

/-- The methods that take one more datum. -/
def pairMethods : List String := [
  "__format__", "__getitem__", "__instancecheck__", "__reduce_ex__", "__setstate__",
  "__subclasscheck__", "add_note", "append", "extend", "remove", "with_traceback"]

/-- Why a routine refuses so many arguments, given how messages name it. -/
def Routine.refusal? (r : Routine) (title : String) (count : Nat) (named : Names) :
    Option Raised :=
  let refused (message : String) : Option Raised := some (.typeError message)
  match r.form with
  | .operation =>
    if freeOperations.contains r.name then none
    else if !named.isEmpty then refused s!"wrapper {r.name}() takes no keyword arguments"
    else if bareOperations.contains r.name then
      if count = 0 then none else refused s!"expected 0 arguments, got {count}"
    else if r.name = "__setattr__" || r.name = "__setitem__" then
      if count = 2 then none else refused s!" expected 2 arguments, got {count}"
    else if count = 1 then none
    else refused s!"expected 1 argument, got {count}"
  | .method =>
    let isBare := bareMethods.contains r.name
    let isPair := pairMethods.contains r.name
    if (isBare || isPair) && !named.isEmpty then refused s!"{title} takes no keyword arguments"
    else if isBare && count ≠ 0 then refused s!"{title} takes no arguments ({count} given)"
    else if isPair && count ≠ 1 then
      refused s!"{title} takes exactly one argument ({count} given)"
    else none
  | _ => none

/-- How messages name a routine on its own. -/
def Routine.title (r : Routine) : String :=
  (r.owner.elim "" fun c => c.name ++ ".") ++ r.name ++ "()"

/-- How messages name a routine that is called on a datum. -/
def Routine.titleOn (r : Routine) : Datum → String
  | .module _ => r.name ++ "()"
  | d => d.classOf.name ++ "." ++ r.name ++ "()"

/-- The comparison that an operation stands for. -/
def comparison? (operation : String) : Option Comparison :=
  [("__eq__", Comparison.eq), ("__ne__", .ne), ("__lt__", .lt), ("__le__", .le), ("__gt__", .gt),
    ("__ge__", .ge)].lookup operation

/-- Something that stands for the lack of an answer. -/
def noAnswer : Datum := .foreign 0 "NotImplementedType"

/-- A table of names, of which no answer shows more. -/
def nameTable : Datum := .foreign 0 "dict"

/-- Whether the objects of a class bind names of their own. -/
def ScriptClass.bindsNames (c : ScriptClass) : Bool := (c.member? "__dict__").isSome

/-- The names that a datum itself binds. -/
def Action.ownNames (d : Datum) : Action Names := do
  match d with
  | .object a _ => return (← contents a).attributes
  | _ => return []

/-- The length of a datum. -/
def lengthOf (d : Datum) : Action Datum := do
  match d.length? (← get).lists with
  | some n => Action.int n
  | none => throw (.typeError s!"object of type '{d.typeName}' has no len()")

/-- Makes a bare object of a class, on behalf of the constructor of another class. -/
def newObject (owner : ScriptClass) (args : List Datum) : Action Datum := do
  let title := owner.typeName ++ ".__new__"
  match args with
  | [] => throw (.typeError (title ++ "(): not enough arguments"))
  | .cls c :: args =>
    if c.isKindOf owner then Action.make c args []
    else
      throw (.typeError
        s!"{title}({c.typeName}): {c.typeName} is not a subtype of {owner.typeName}")
  | d :: _ => throw (.typeError s!"{title}(X): X is not a type object ({d.typeName})")

/-- What a routine does that every datum offers, given the arguments that it demands; nothing when
it is another one. -/
def Routine.common? (r : Routine) (d : Datum) (args : List Datum) : Option (Action Datum) :=
  let refused (message : String) : Option (Action Datum) := some (throw (.typeError message))
  let packed : Option (Action Datum) :=
    if d.classOf.bindsNames then some (return noAnswer)
    else refused s!"cannot pickle '{d.classOf.name}' object"
  match r.name, args with
  | "__repr__", [] => some (do Action.text (← (← get).shown d))
  | "__str__", [] => some (do Action.text (← (← get).textOf d))
  | "__format__", [.text _ ""] => some (do Action.text (← (← get).textOf d))
  | "__format__", [.text _ _] =>
    refused s!"unsupported format string passed to {d.typeName}.__format__"
  | "__format__", [a] => refused s!"__format__() argument must be str, not {a.typeName}"
  | "__getstate__", [] => some do
    let names ← Action.ownNames d
    return if names.isEmpty then .nothing else nameTable
  | "__reduce__", [] => packed
  | "__reduce_ex__", [a] =>
    if a.isWhole then packed
    else refused s!"'{a.typeName}' object cannot be interpreted as an integer"
  | "__len__", [] => some (lengthOf d)
  | "__new__", args => r.owner.map fun owner => newObject owner args
  | "__init_subclass__", args =>
    if args.isEmpty then some (return .nothing)
    else refused s!"{r.title} takes no arguments ({args.length} given)"
  | "__subclasshook__", _ => some (return noAnswer)
  | operation, [other] =>
    (comparison? operation).map fun op => do
      if d.answers op other then return .bool (← d.compared (← get).lists op other)
      else return noAnswer
  | _, _ => none

end DecoderExport.Scripting
