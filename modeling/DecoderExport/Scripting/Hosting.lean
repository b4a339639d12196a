import DecoderExport.Scripting.Path

/-!
# The interpreter as a host

The interpreter is the host of the objects that scripts see. It finds classes by dotted path,
checks that they take as many arguments as a constructor signature has parameters, and builds
objects of them. Whatever a class raises while it builds is handed on unchanged.
-/

namespace DecoderExport.Scripting

namespace Interpreter

/-- Whether a datum is an instance of a class. An object of the class itself always is. -/
def isInstance (d : Datum) (c : ScriptClass) : Except Raised Bool :=
  if d.classOf = c then .ok true
  else if c.cls = .standard "type" then .ok (d.classOf.isKindOf c)
  else .error (.standard "RuntimeError" "no instance checks")

/-- Checks that all elements of a list are instances of a class. -/
def checkElements (c : ClassPath) (index : Nat) : List Datum → Except (Fault Raised) Unit
  | [] => .ok ()
  | d :: ds =>
    match isInstance d c.cls with
    | .error e => .error (.construction c.path (.raised e))
    | .ok false => .error (.construction c.path (.elementClass index c.path))
    | .ok true => checkElements c (index + 1) ds

/-- An argument of a constructor as a datum. -/
def argument (stamp : Nat) : Arg Datum → Datum
  | .text s => .text stamp s
  | .float x => .ofSingle stamp x
  | .object d => d

/-- Makes an object of a class of arguments that are made for the purpose. -/
def build (c : ScriptClass) (args : List (Arg Datum)) : Action Datum := do
  Action.make c (← Action.freshAll argument args) []

end Interpreter

instance : Host Interpreter Datum ClassPath ScriptClass Raised where
  findClass path s :=
    match findPath path s with
    | (.ok c, s) => (.ok c, s)
    | (.error message, s) => (.error (.linkage path "" (.stated message)), s)
  findConstructor c signature s :=
    match c.cls.objection? signature.arity with
    | none => (.ok c.cls, s)
    | some message =>
      let why := toString (Raised.typeError message)
      (.error (.linkage c.path signature.display (.stated why)), s)
  newObject c constructor args s :=
    match Interpreter.build constructor args s with
    | (.ok d, s) => (.ok d, s)
    | (.error e, s) => (.error (.construction c.path (.raised e)), s)
  newInts values s :=
    let (d, s) := s.addInts values
    (.ok d, s)
  newArray c elements s :=
    match Interpreter.checkElements c 0 elements with
    | .error f => (.error f, s)
    | .ok () =>
      let (d, s) := s.addList elements
      (.ok d, s)

end DecoderExport.Scripting
