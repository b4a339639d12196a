import DecoderExport.Scripting.Namespace

/-!
# Dotted paths

Scripts name a class by its module and its name, with a dot between them. The path is split at its
last dot. Modules have no modules inside; one that says where they would be is searched in vain.
-/

namespace DecoderExport.Scripting

/-- Splits a path at its last dot; a path without dot names no class. -/
def splitPath? (path : String) : Option (String × String) :=
  let backwards := path.toList.reverse
  match backwards.dropWhile (· ≠ '.') with
  | [] => none
  | _ :: module =>
    some (String.ofList module.reverse, String.ofList (backwards.takeWhile (· ≠ '.')).reverse)

/-- The parts of a dotted name. -/
def nameParts (name : String) : List String := (name.toList.splitOn '.').map String.ofList

/-- The complaint that there is no such module. -/
def noSuchModule (module : String) (rest : String) : Raised :=
  .standard "ModuleNotFoundError" (s!"No module named {Text.quoteScript module}" ++ rest)

/-- The outermost module of a dotted name, and the name of the next one inside if there is one. A
dot in front belongs to the outermost name. -/
def outermost : List String → String × Option String
  | "" :: name :: rest => ("." ++ name, rest.head?)
  | name :: rest => (name, rest.head?)
  | [] => ("", none)

/-- Whether a datum can be gone through item by item. -/
def Datum.isIterable : Datum → Bool
  | text _ _ => true
  | tuple _ _ => true
  | list _ => true
  | foreign _ name => name = "dict" || name = "list"
  | _ => false

namespace Action

/-- Searches a module for one inside it, which is never found. -/
def searchInside (m : ScriptModule) (inner : String) : Action Unit := do
  let missing := noSuchModule s!"{m.name}.{inner}"
  let before ← get
  match (lookName m "__path__").run before with
  | (.error e, s) =>
    set s
    if e.cls.isKindOf (.standard "AttributeError") then
      throw (missing s!"; {Text.quoteScript m.name} is not a package")
    else throw e
  | (.ok place, s) =>
    set s
    if place.isSame .nothing || place.isIterable then throw (missing "")
    else throw (.typeError s!"'{place.typeName}' object is not iterable")

/-- Imports a module. The outermost module is imported first. -/
def importModule (module : String) : Action ScriptModule := do
  if module = "" then throw (.valueError "Empty module name")
  let (top, inner) := outermost (nameParts module)
  match [ScriptModule.exporter, .standard, .script].find? (·.name = top) with
  | none => throw (noSuchModule top "")
  | some m =>
    inner.forM (searchInside m)
    return m

/-- What a dotted path leads to. -/
def follow (module name : String) : Action Datum := do
  lookName (← importModule module) name

end Action

/-- Finds the class that a path names, or tells why there is none. -/
def findPath (path : String) (s : Interpreter) : Except String ClassPath × Interpreter :=
  match splitPath? path with
  | none => (.error "expected a dotted path module.Class", s)
  | some (module, name) =>
    match Action.follow module name s with
    | (.error e, s) => (.error (toString e), s)
    | (.ok (.cls c), s) => (.ok ⟨path, c⟩, s)
    | (.ok _, s) => (.error "not a class", s)

end DecoderExport.Scripting
