import DecoderExport.Exporter
import DecoderExport.Scripting.Arguments

/-!
# The interpreter

The interpreter keeps what changeable data hold and what the names of the module of defined classes
stand for. What a script does is an action. It may raise, and what it has changed by then stays
changed.
-/

namespace DecoderExport.Scripting

/-- A class and the dotted path that led to it. -/
structure ClassPath where
  path : String
  cls : ScriptClass
  deriving DecidableEq, Repr

/-- What an object holds. -/
structure Contents where
  attributes : Names := []
  /-- The arguments that an exception was made with. -/
  arguments : Datum := .tuple 0 []
  /-- The fields that are kept apart from the attributes. -/
  fields : Names := []

/-- The state of the interpreter. -/
structure Interpreter where
  /-- The address or stamp of the next datum. -/
  next : Nat
  exporters : List (Nat × Exporter ClassPath ScriptClass)
  objects : List (Nat × Contents)
  lists : Lists
  /-- The names of the module of defined classes. -/
  names : Names

/-- Something that a script does. -/
abbrev Action (α : Type) := ExceptT Raised (StateM Interpreter) α

namespace Interpreter

/-- What the object at an address holds. -/
def contents (s : Interpreter) (address : Nat) : Contents := (s.objects.lookup address).getD {}

/-- The exporter at an address. -/
def exporter (s : Interpreter) (address : Nat) : Exporter ClassPath ScriptClass :=
  (s.exporters.lookup address).getD (.ofConfig plainConfig)

/-- Adds a list. -/
def addList (s : Interpreter) (items : List Datum) : Datum × Interpreter :=
  (.list s.next, { s with next := s.next + 1, lists := (s.next, items) :: s.lists })

/-- Adds a list of 32-bit integers. -/
def addInts (s : Interpreter) (values : List Int32) : Datum × Interpreter :=
  let items := Datum.numbered Datum.ofInt32 s.next values
  { s with next := s.next + values.length }.addList items

/-- Adds an object that is known by address. -/
def addObject (s : Interpreter) (c : ScriptClass) (contents : Contents) : Datum × Interpreter :=
  (.object s.next c, { s with next := s.next + 1, objects := (s.next, contents) :: s.objects })

/-- Adds an exporter. -/
def addExporter (s : Interpreter) (c : Config) : Datum × Interpreter :=
  (.exporter s.next,
    { s with next := s.next + 1, exporters := (s.next, .ofConfig c) :: s.exporters })

end Interpreter

namespace Action

/-- So many new stamps, by the first of them. -/
def stamps (count : Nat) : Action Nat :=
  modifyGet fun s => (s.next, { s with next := s.next + count })

/-- A new datum with a stamp of its own. -/
def fresh (make : Nat → Datum) : Action Datum := return make (← stamps 1)

/-- New data with a stamp each. -/
def freshAll {α : Type} (make : Nat → α → Datum) (values : List α) : Action (List Datum) :=
  return Datum.numbered make (← stamps values.length) values

/-- Makes a text. -/
def text (s : String) : Action Datum := fresh (.text · s)

/-- Makes a whole number. -/
def int (n : Int) : Action Datum := fresh (.int · n)

/-- Makes a list. -/
def list (items : List Datum) : Action Datum := modifyGet fun s => s.addList items

/-- Changes what the list at an address holds. -/
def keepItems (address : Nat) (items : List Datum) : Action Unit :=
  modify fun s =>
    { s with lists := (address, items) :: s.lists.filter (·.1 ≠ address) }

/-- Makes a list of 32-bit integers. -/
def ints (values : List Int32) : Action Datum := modifyGet fun s => s.addInts values

/-- Makes a list of pairs of indices. -/
def pairs (values : List AlignmentPair) : Action Datum := do
  let first ← stamps (3 * values.length)
  list (values.zipIdx.map fun (p, i) => Datum.ofPair (first + 3 * i) p)

/-- Makes an object that is known by address. -/
def object (c : ScriptClass) (contents : Contents) : Action Datum :=
  modifyGet fun s => s.addObject c contents

/-- What the object at an address holds. -/
def contents (address : Nat) : Action Contents := return (← get).contents address

/-- Changes what the object at an address holds. -/
def keep (address : Nat) (contents : Contents) : Action Unit :=
  modify fun s =>
    { s with objects := (address, contents) :: s.objects.filter (·.1 ≠ address) }

/-- Makes an exporter. -/
def exporter (c : Config) : Action Datum := modifyGet fun s => s.addExporter c

end Action

end DecoderExport.Scripting
