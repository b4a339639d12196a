import DecoderExport.Scripting.Routine

/-!
# Modules and their names

Three modules can be imported: that of the exporter, the standard one, and that of the classes that
scripts define, whose names can be bound anew. What the names of the other two stand for never
changes, and whoever tries to change it is refused. A name that a module does not bind is one of the
names that every module has, or else the module is asked for it, if it binds something to answer
such questions.
-/

namespace DecoderExport.Scripting

/-- The class of modules. -/
def moduleClass : ScriptClass := .standard "module"

/-- The class of the exporter module with a name. -/
def exporterClass? (name : String) : Option ScriptClass :=
  ([OwnClass.hypothesis, .translation, .exporter].map ScriptClass.own ++
    [FaultClass.any, .linkage, .construction, .narrowing].map ScriptClass.fault).find?
    (·.name = name)

/-- The names of the exporter module. -/
def exporterName? (name : String) : Option Datum :=
  match exporterClass? name with
  | some c => some (.cls c)
  | none =>
    match name with
    | "DEFAULT_HYPOTHESIS_CLASS" => some (.constant defaultHypothesisPath)
    | "DEFAULT_TRANSLATION_CLASS" => some (.constant defaultTranslationPath)
    | "decode_alignment" | "encode_alignment" | "version" =>
      some (.routine ⟨none, name, .static⟩)
    | "__name__" => some (.constant ScriptModule.exporter.name)
    | "__doc__" => some (.constant "MTBridge Python module")
    | "__file__" | "__package__" => some (.constant "")
    | "__spec__" => some (.foreign 0 "ModuleSpec")
    | "__loader__" => some (.foreign 0 "ExtensionFileLoader")
    | "__all__" => some (.foreign 0 "list")
    | _ => none

/-- The names of the standard module. -/
def standardName? (name : String) : Option Datum :=
  match standardClass? name with
  | some c => some (.cls c)
  | none =>
    match name with
    | "__name__" => some (.constant ScriptModule.standard.name)
    | "__doc__" | "__package__" => some (.constant "")
    | "__spec__" => some (.foreign 0 "ModuleSpec")
    | "__loader__" => some (.cls (.standard "BuiltinImporter"))
    | _ =>
      if standardOthers.contains name then some (.foreign 0 "builtin_function_or_method") else none

/-- What a module binds a name to. -/
def Interpreter.name? (s : Interpreter) (m : ScriptModule) (name : String) : Option Datum :=
  match m with
  | .exporter => exporterName? name
  | .standard => standardName? name
  | .script => s.names.lookup name

/-- The complaint that a module does not have a name. A module whose own name is lost leaves it
out. -/
def Interpreter.noSuchName (s : Interpreter) (m : ScriptModule) (name : String) : Raised :=
  match s.name? m "__name__" with
  | some (.text _ own) => .attributeError s!"module '{own}' has no attribute '{name}'"
  | _ => .attributeError s!"module has no attribute '{name}'"

namespace Action

/-- Changes the names of a module, if it is the module of defined classes. -/
def modifyNames (m : ScriptModule) (change : Names → Names) : Action Unit :=
  match m with
  | .script => modify fun s => { s with names := change s.names }
  | m => throw (.unsupported s!"changing the names of module '{m.name}'")

/-- Forgets a name of a module. -/
def dropName (m : ScriptModule) (name : String) : Action Datum := do
  match name with
  | "__class__" => throw (.typeError "can't delete __class__ attribute")
  | "__dict__" => throw (.attributeError "readonly attribute")
  | _ =>
    -- Modules get this name when it is first looked up, which is only noted for the module of
    -- defined classes.
    let mayBeKnown := name = "__annotations__" && m ≠ .script
    if ((← get).name? m name).isSome || mayBeKnown then
      modifyNames m (Names.drop name)
      return .nothing
    else if name = "__annotations__" then throw (.attributeError name)
    else throw (.attributeError s!"'module' object has no attribute '{name}'")

/-- The refusal to make a datum the class of another one. -/
def refuseClass (value : Datum) : Raised :=
  match value with
  | .cls _ => .typeError
      "__class__ assignment only supported for mutable types or ModuleType subclasses"
  | d => .typeError s!"__class__ must be set to a class, not '{d.typeName}' object"

/-- Binds a name of a module. -/
def putName (m : ScriptModule) (name : String) (value : Datum) : Action Datum := do
  match name with
  | "__class__" => throw (refuseClass value)
  | "__dict__" => throw (.attributeError "readonly attribute")
  | _ =>
    modifyNames m (Names.put name value)
    return .nothing

/-- Names a module anew. -/
def renameModule (m : ScriptModule) (args : List Datum) : Action Datum := do
  match standardRefusal? moduleClass.name (args.map Datum.typeName) with
  | some message => throw (.typeError message)
  | none =>
    modifyNames m fun names => (standardContents moduleClass.name args).attributes.foldl
      (fun names (name, d) => names.put name d) names
    return .nothing

/-- Lists the names that a module binds, if it is the module of defined classes. -/
def listNames (m : ScriptModule) : Action Datum := do
  match m with
  | .script => list ((← get).names.map fun (name, _) => .constant name)
  | m => throw (.unsupported s!"listing the names of module '{m.name}'")

/-- The name of an attribute. -/
def attributeName : Datum → Except Raised String
  | .text _ name => .ok name
  | d => .error (.typeError s!"attribute name must be string, not '{d.typeName}'")

/-- Calls a routine on a module, given what looks names up. -/
def callOnModule (look : String → Action Datum) (m : ScriptModule) (r : Routine)
    (args : List Datum) (named : Names) : Action Datum := do
  let d := Datum.module m
  match r.refusal? (r.titleOn d) args.length named with
  | some e => throw e
  | none =>
    match r.name, args with
    | "__init__", _ => renameModule m args
    | "__dir__", _ => listNames m
    | "__getattribute__", [name] => look (← attributeName name)
    | "__setattr__", [name, value] => putName m (← attributeName name) value
    | "__delattr__", [name] => dropName m (← attributeName name)
    | _, _ => (r.common? d args).getD (return noAnswer)

/-- Asks what a module binds for the purpose about a name that the module does not bind. -/
def askFor (hook : Datum) (name : String) : Action Datum := do
  let asked ← text name
  match hook with
  | .cls c => make c [asked] []
  | .bound _ r (.module m) =>
    let look := fun _ => throw (.tooDeep "while calling a Python object")
    callOnModule look m r [asked] []
  | .routine r => (r.common? .nothing [asked]).getD (return noAnswer)
  | d => throw (notCallable d)

/-- The routine that is found under a name, ready to be called on a datum. -/
def bindRoutine (owner c : ScriptClass) (name : String) (form : Form) (d : Datum) : Action Datum :=
  match form with
  | .static => return .routine ⟨some (if name = "__new__" then owner else c), name, .static⟩
  | _ => fresh (.bound · ⟨some owner, name, form⟩ d)

/-- Looks a name of a module up. -/
def lookName (m : ScriptModule) (name : String) : Action Datum := do
  let s ← get
  match name, s.name? m name with
  | "__class__", _ => return .cls moduleClass
  | "__dict__", _ => return nameTable
  | "__annotations__", none =>
    if m = .script then modifyNames m (Names.put name nameTable)
    return nameTable
  | _, some d => return d
  | _, none =>
    match moduleClass.member? name with
    | some (owner, .routine form) => bindRoutine owner moduleClass name form (.module m)
    | some (_, .constant (some t)) => return .constant t
    | _ =>
      match s.name? m "__getattr__" with
      | some hook => askFor hook name
      | none => throw (s.noSuchName m name)

end Action

end DecoderExport.Scripting
