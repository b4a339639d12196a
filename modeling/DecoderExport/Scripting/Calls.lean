import DecoderExport.Scripting.Hosting
import DecoderExport.Scripting.Items

/-!
# What scripts can do

The functions and classes that the exporter offers to scripts, the methods of its objects and of
exceptions, and calls of any datum. Whatever can be called is a class or a routine.
-/

namespace DecoderExport.Scripting

/-- What the exporter calls itself. -/
def exporterVersion : String := "mtbridge-python 0.1.0"

/-- The function that flattens pairs. -/
def encodeCallable : Callable := ⟨"encode_alignment()", [("pairs", true)]⟩

/-- The function that pairs a flat list up. -/
def decodeCallable : Callable := ⟨"decode_alignment()", [("flat", true)]⟩

/-- The method that builds a hypothesis. -/
def hypothesisCallable : Callable := ⟨"Marshaller.hypothesis()", OwnClass.hypothesis.slots⟩

/-- The method that builds a translation around hypotheses that have been built. -/
def translationCallable : Callable := ⟨"Marshaller.translation()", OwnClass.translation.slots⟩

/-- The method that exports a decoder output. -/
def exportCallable : Callable :=
  ⟨"Marshaller.marshal()",
    [("text", true), ("nbest", false), ("alignment", false), ("source", false)]⟩

/-- The names of the module of defined classes before a script changes it: those that every module
has, the classes, each behind the class of its own that it may have, and whatever else is bound. -/
def definedNames (definitions : List Definition) (others : Names) : Names :=
  [("__name__", .constant ScriptModule.script.name), ("__doc__", .nothing),
    ("__package__", .nothing), ("__loader__", .nothing), ("__spec__", .nothing),
    ("__builtins__", nameTable)] ++
  definitions.flatMap (fun d =>
    (d.metaclass.toList.map fun name => (name, .cls (.metaclass name))) ++
      [(d.name, .cls (.defined d))]) ++
  others

/-- An interpreter in which nothing has been done yet but to define classes and other names. -/
def Interpreter.fresh (definitions : List Definition) (others : Names) : Interpreter :=
  ⟨1, [], [], [], definedNames definitions others⟩

namespace Action

/-- Goes on with what does not fail, and raises what a fault becomes. -/
def ofFault {α : Type} (outcome : Except (Fault Raised) α) : Action α :=
  ExceptT.mk (return outcome.mapError .ofFault)

/-- Flattens pairs. -/
def encodePairs (args : List Datum) (named : Names) : Action Datum := do
  let m ← encodeCallable.bind args named
  let alignment ← ofFault (Alignment.encode (← m.required "pairs" (Datum.readPairs (← get).lists)))
  ints alignment.flat

/-- The pairs that a flat list stands for. -/
def pairUp (flat : List Int32) : Action Datum := do
  pairs (← ofFault (Alignment.ofFlat flat)).decode

/-- Pairs a flat list up. -/
def decodePairs (args : List Datum) (named : Names) : Action Datum := do
  let m ← decodeCallable.bind args named
  pairUp (← m.required "flat" (Datum.readInts (← get).lists))

/-- Makes an exporter as the environment asks. -/
def exporterFrom (env : Environment) (args : List Datum) (named : Names) : Action Datum := do
  refuseArguments "Marshaller.from_env()" args named
  exporter (← ofFault (plainConfig.override env))

/-- Runs an operation of the exporter at an address, which keeps what it has looked up. -/
def runExporter {α : Type} (address : Nat)
    (run : Exporter ClassPath ScriptClass → Interpreter →
      Except (Fault Raised) α × Exporter ClassPath ScriptClass × Interpreter) : Action α :=
  fun s =>
    let (reply, e, s) := run (s.exporter address) s
    (reply.mapError .ofFault,
      { s with exporters := (address, e) :: s.exporters.filter (·.1 ≠ address) })

/-- Looks up both classes of an exporter, that of hypotheses first. -/
def resolve (address : Nat) : Action Unit :=
  runExporter address fun e s =>
    match e.hypotheses.resolve s with
    | (.error f, hypotheses, s) => (.error f, { e with hypotheses }, s)
    | (.ok (), hypotheses, s) =>
      let (reply, translations, s) := e.translations.resolve s
      (reply, { e with hypotheses, translations }, s)

/-- Builds a hypothesis. -/
def buildHypothesis (address : Nat) (c : Candidate) : Action Datum :=
  runExporter address fun e s =>
    let (reply, hypotheses, s) := e.hypotheses.create c s
    (reply, { e with hypotheses }, s)

/-- Builds a translation around hypotheses that have been built. The alignment is encoded before
anything is looked up. -/
def buildTranslation (address : Nat) (p : TranslationParts AlignmentPair) : Action Datum := do
  let alignment ← ofFault (Alignment.encode p.alignment)
  runExporter address fun e s => e.finish p.text p.hypotheses alignment p.source s

/-- Exports a decoder output. -/
def exportOutput (address : Nat) (o : DecoderOutput) : Action Datum :=
  runExporter address fun e s => e.marshal o s

/-- What a method of an exporter does; nothing when it is another method. -/
def callOnExporter? (address : Nat) (method : String) (args : List Datum) (named : Names) :
    Option (Action Datum) :=
  match method with
  | "resolve" => some do
    resolve address
    return .nothing
  | "hypothesis" => some do
    let m ← hypothesisCallable.bind args named
    buildHypothesis address (← m.candidate)
  | "translation" => some do
    let m ← translationCallable.bind args named
    buildTranslation address (← m.translationParts (← get).lists Datum.readPairs)
  | "marshal" => some do
    let m ← exportCallable.bind args named
    exportOutput address (← m.decoderOutput (← get).lists)
  | _ => none

/-- Adds a note to an exception. -/
def addNote (address : Nat) (note : Datum) : Action Datum := do
  if note.classOf ≠ .standard "str" then
    throw (.typeError s!"note must be a str, not '{note.typeName}'")
  let held ← contents address
  match held.attributes.lookup "__notes__" with
  | some (.list notes) => keepItems notes ((← get).lists.items notes ++ [note])
  | some _ => throw (.typeError "Cannot add note: __notes__ is not a list")
  | none =>
    let notes ← list [note]
    keep address { held with attributes := held.attributes.put "__notes__" notes }
  return .nothing

/-- What a method of an exception does; nothing when it is another method. -/
def callOnException? (address : Nat) (c : ScriptClass) (method : String) (args : List Datum) :
    Option (Action Datum) :=
  match method, args with
  | "add_note", [note] => some (addNote address note)
  | "with_traceback", [d] => some do
    writeException address "__traceback__" d
    return .object address c
  | "__setstate__", [d] =>
    if d.isSame .nothing then some (return .nothing)
    else some (throw (.typeError "state is not a dictionary"))
  | _, _ => none

/-- Sets an object up once more. -/
def setUp (d : Datum) (args : List Datum) (named : Names) : Action Datum := do
  match d with
  | .object a (.defined definition) =>
    let added ← definition.attributes args named
    let held ← contents a
    let attributes := added.foldl (fun names (name, d) => names.put name d) held.attributes
    keep a { held with attributes }
  | .object a c =>
    if c.isException && !c.isKindOf (.standard "OSError") then
      if !named.isEmpty then throw (.typeError s!"{c.name}() takes no keyword arguments")
      let made := exceptionContents c (← stamps 1) args
      let held ← contents a
      let fields := made.fields.foldl (fun names (name, d) => names.put name d) held.fields
      keep a { held with arguments := made.arguments, fields }
  | _ => return .nothing
  return .nothing

/-- Calls a routine on a datum, given how messages name it. -/
def callRoutine (r : Routine) (title : String) (d : Datum) (args : List Datum) (named : Names) :
    Action Datum := do
  match d with
  | .module m => callOnModule (lookName m) m r args named
  | d =>
    if let some e := r.refusal? title args.length named then throw e
    if let some run ← callOnItems d r.name args then return ← run
    match d, r.name, args with
    | d, "__getattribute__", [name] => getAttribute d (← attributeName name)
    | d, "__setattr__", [name, value] => setAttribute d (← attributeName name) value
    | d, "__delattr__", [name] => dropAttribute d (← attributeName name)
    | d, "__init__", args => setUp d args named
    | .translation _ _ _ alignment _, "alignment_pairs", _ => pairUp alignment
    | .cls c, "mro", _ => list ((c :: c.lineage.drop 1).map Datum.cls)
    | .cls _, "__instancecheck__", _ => throw (.standard "RuntimeError" "no instance checks")
    | d, method, args =>
      let special := match d with
        | .exporter a => callOnExporter? a method args named
        | .object a c => if c.isException then callOnException? a c method args else none
        | _ => none
      (special.orElse fun _ => r.common? d args).getD (return noAnswer)

/-- Calls a routine that needs no datum to be called on. -/
def callFunction (env : Environment) (r : Routine) (args : List Datum) (named : Names) :
    Action Datum := do
  match r.name with
  | "version" =>
    refuseArguments (ScriptModule.exporter.name ++ ".version()") args named
    text exporterVersion
  | "encode_alignment" => encodePairs args named
  | "decode_alignment" => decodePairs args named
  | "from_env" => exporterFrom env args named
  | _ => (r.common? .nothing args).getD (return noAnswer)

/-- Calls a routine on the first of its arguments. -/
def callUnbound (r : Routine) (args : List Datum) (named : Names) : Action Datum := do
  let owner := r.owner.getD (.standard "object")
  match r.form, args with
  | .operation, [] =>
    throw (.typeError s!"descriptor '{r.name}' of '{owner.typeName}' object needs an argument")
  | .defined, [] => throw (missing r.title "positional" ["self"])
  | _, [] => throw (.typeError s!"unbound method {r.title} needs an argument")
  | form, d :: args =>
    if form = .defined || d.classOf.isKindOf owner then callRoutine r r.title d args named
    else if form = .operation then
      throw (.typeError (s!"descriptor '{r.name}' requires a '{owner.typeName}' object " ++
        s!"but received a '{d.typeName}'"))
    else
      throw (.typeError (s!"descriptor '{r.name}' for '{owner.typeName}' objects doesn't apply " ++
        s!"to a '{d.typeName}' object"))

/-- Calls a datum. -/
def call (env : Environment) (d : Datum) (args : List Datum) (named : Names) : Action Datum :=
  match d with
  | .cls c => make c args named
  | .bound _ r receiver => callRoutine r (r.titleOn receiver) receiver args named
  | .routine r =>
    if r.form = .static then callFunction env r args named else callUnbound r args named
  | d => throw (notCallable d)

/-- Calls a method of a datum. -/
def callMethod (env : Environment) (d : Datum) (name : String) (args : List Datum)
    (named : Names) : Action Datum := do
  call env (← getAttribute d name) args named

/-- Calls something that the exporter offers under a dotted name. -/
def callOffered (env : Environment) (name : String) (args : List Datum) (named : Names) :
    Action Datum := do
  call env (← (nameParts name).foldlM getAttribute (.module .exporter)) args named

/-- Calls something in the module of defined classes, mostly to make an object of a class. -/
def makeNamed (env : Environment) (name : String) (args : List Datum) : Action Datum := do
  call env (← lookName .script name) args []

/-- Binds a name of the module of defined classes to what another name stands for. -/
def rebind (name target : String) : Action Datum := do
  putName .script name (← lookName .script target)

/-- Removes a name from the module of defined classes. -/
def unbind (name : String) : Action Datum := dropName .script name

end Action

end DecoderExport.Scripting
