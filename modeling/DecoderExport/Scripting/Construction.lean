import DecoderExport.Scripting.Shown

/-!
# Construction

What classes make of arguments. The exporter first asks a class whether it can take so many
arguments; a class of which the parameters are not known says yes. Exceptions keep their arguments,
and some of them give names to the first few.
-/

namespace DecoderExport.Scripting

/-- The parameters of the constructor of a class of the exporter, with whether each is required. -/
def OwnClass.slots : OwnClass → List (String × Bool)
  | hypothesis => [("text", true), ("total_score", true), ("feature_values", true)]
  | translation => [("text", true), ("hypotheses", true), ("alignment", true), ("source", false)]
  | exporter =>
    [("hypothesis_class", false), ("translation_class", false), ("include_source", false)]

/-- The constructor of a class of the exporter. -/
def OwnClass.callable (c : OwnClass) : Callable := ⟨c.name ++ ".__new__()", c.slots⟩

/-- Why a constructor cannot take so many arguments by position, given its parameters and those that
can only be given by name; nothing when it can. -/
def objection? (slots : List (String × Bool)) (named : List String) (count : Nat) :
    Option String :=
  if slots.length < count then some "too many positional arguments"
  else
    let missing := ((slots.drop count).filter (·.2)).map (·.1)
    (missing ++ named).head?.map fun name => s!"missing a required argument: '{name}'"

/-- The parameters of a defined constructor, with whether each is required. -/
def Definition.slots (d : Definition) : List (String × Bool) :=
  d.parameters.map fun p => (p.name, p.fallback.isNone)

/-- Why a class cannot take so many arguments by position; nothing when it can, or when its
parameters are not known. -/
def ScriptClass.objection? (c : ScriptClass) (count : Nat) : Option String :=
  match c with
  | own c => Scripting.objection? c.slots [] count
  | defined d => if d.takesAny then none else Scripting.objection? d.slots d.named count
  | standard name =>
    if signedStandardClasses.contains name then Scripting.objection? [] [] count else none
  | _ => none

/-- The exception that a fault becomes. -/
def Raised.ofFault : Fault Raised → Raised
  | .construction _ (.raised e) => e
  | .construction cls why => ⟨.fault .construction, s!"{cls}: {why.message}"⟩
  | f@(.linkage ..) => ⟨.fault .linkage, f.message⟩
  | f@(.narrowing ..) => ⟨.fault .narrowing, f.message⟩
  | f@(.malformedAlignment _) => .valueError f.message
  | f => ⟨.fault .any, f.message⟩

namespace Definition

/-- How messages name a defined constructor. -/
def title (d : Definition) : String := d.owner ++ ".__init__()"

/-- Matches arguments with the parameters of a defined constructor. The object that is made counts
as one of them. -/
def bind (d : Definition) (args : List Datum) (named : Names) : Except Raised Matched := do
  let all : Callable := ⟨d.title, d.slots ++ d.named.map (·, true)⟩
  let found ← all.addNamed ((d.parameters.map (·.name)).zip args) named
  let lacks name := (found.lookup name).isNone
  let counted : Callable := ⟨d.title, ("self", true) :: d.slots⟩
  if d.takesAny then return found
  else if d.slots.length < args.length then throw (counted.tooMany (args.length + 1))
  else
    match ((d.slots.filter (·.2)).map (·.1)).filter lacks, d.named.filter lacks with
    | [], [] => return found
    | [], names => throw (missing d.title "keyword-only" names)
    | names, _ => throw (missing d.title "positional" names)

/-- The value of a parameter. -/
def value (d : Definition) (m : Matched) (parameter : String) : Datum :=
  match m.lookup parameter with
  | some v => v
  | none =>
    match (d.parameters.find? (·.name = parameter)).bind (·.fallback) with
    | some (.text s) => .constant s
    | _ => .nothing

/-- What a deed adds to the attributes of the new object. -/
def perform (d : Definition) (args : List Datum) (m : Matched) : Deed → Action Names
  | .keep parameter => return [(parameter, d.value m parameter)]
  | .keepAll slot => return [(slot, ← Action.list args)]
  | .refuseNaN parameter message =>
    if (d.value m parameter).differsFromItself then throw (.valueError message) else return []
  | .raiseKey parameter => do
    throw (.standard "KeyError" (← (← get).shown (d.value m parameter)))
  | .raiseLookup lead parameter =>
    match d.value m parameter with
    | .text _ s => throw (.standard "LookupError" (lead ++ s))
    | v => throw (.typeError s!"can only concatenate str (not \"{v.typeName}\") to str")

/-- The attributes of a new object of a defined class. -/
def attributes (d : Definition) (args : List Datum) (named : Names) : Action Names := do
  let m ← d.bind args named
  return (← d.deeds.mapM (d.perform args m)).flatten

end Definition

/-- Whether a datum can stand for a number of characters. -/
def Datum.isWhole : Datum → Bool
  | bool _ => true
  | int _ _ => true
  | _ => false

/-- What a new exception holds. Failures of the system drop the name of a file from their
arguments. -/
def exceptionContents (c : ScriptClass) (stamp : Nat) (args : List Datum) : Contents :=
  let is (base : String) : Bool := c.isKindOf (.standard base)
  let all : Datum := .tuple stamp args
  let given (name : String) (d : Option Datum) : Names := d.toList.map (name, ·)
  if is "OSError" && 2 ≤ args.length && args.length ≤ 5 then
    let cause := given "errno" args[0]? ++ given "strerror" args[1]?
    match args[2]? with
    | none | some Datum.nothing => { arguments := all, fields := cause }
    | some file =>
      if is "BlockingIOError" && file.isWhole then
        { arguments := all, fields := cause ++ [("characters_written", file)] }
      else
        let other := (given "filename2" args[4]?).filter fun (_, d) => !d.isSame .nothing
        { arguments := .tuple stamp (args.take 2), fields := cause ++ ("filename", file) :: other }
  else if is "StopIteration" then { arguments := all, fields := given "value" args[0]? }
  else if is "SystemExit" then
    let code := if args.length = 1 then args[0]? else if args.isEmpty then none else some all
    { arguments := all, fields := given "code" code }
  else if is "SyntaxError" then { arguments := all, fields := given "msg" args[0]? }
  else if is "ImportError" && args.length = 1 then
    { arguments := all, fields := given "msg" args[0]? }
  else { arguments := all }

/-- What an object of a standard class that is no exception holds. -/
def standardContents (name : String) (args : List Datum) : Contents :=
  match name, args with
  | "slice", [stop] => { fields := [("stop", stop)] }
  | "slice", _ => { fields := ["start", "stop", "step"].zip args }
  | "property", _ => { fields := ["fget", "fset", "fdel"].zip args }
  | "module", _ =>
    let documentation := (args[1]?).getD .nothing
    { attributes := ("__name__", (args[0]?).getD .nothing) :: ("__doc__", documentation) ::
        ["__package__", "__loader__", "__spec__"].map (·, .nothing) }
  | _, _ => {}

namespace Action

/-- Makes an object of a class of the exporter. -/
def makeOwn (c : OwnClass) (args : List Datum) (named : Names) : Action Datum := do
  let m ← c.callable.bind args named
  match c with
  | .hypothesis =>
    let candidate ← m.candidate
    fresh (.hypothesis · candidate)
  | .translation =>
    let p ← m.translationParts (← get).lists Datum.readInts
    fresh (.translation · p.text p.hypotheses p.alignment p.source)
  | .exporter =>
    let config ← m.config
    match (config.validate : Except (Fault Raised) Unit) with
    | .error f => throw (.ofFault f)
    | .ok () => exporter config

/-- Makes an exception. -/
def makeException (c : ScriptClass) (args : List Datum) : Action Datum := do
  object c (exceptionContents c (← stamps 1) args)

/-- Makes an object of a class. -/
def make (c : ScriptClass) (args : List Datum) (named : Names) : Action Datum := do
  match c with
  | .own c => makeOwn c args named
  | .defined d => object c { attributes := ← d.attributes args named }
  | _ =>
    if !named.isEmpty then throw (.typeError s!"{c.name}() takes no keyword arguments")
    match c, args with
    | .fault _, _ => makeException c args
    | .standard "type", [d] => return .cls d.classOf
    | .metaclass _, _ =>
      match newClassRefusal? (args.map Datum.typeName) with
      | some message => throw (.typeError message)
      | none => object c {}
    | .standard name, _ =>
      match standardRefusal? name (args.map Datum.typeName) with
      | some message => throw (.typeError message)
      | none =>
        if c.isException then makeException c args else object c (standardContents name args)
    | _, _ => object c {}

end Action

end DecoderExport.Scripting
