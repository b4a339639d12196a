import DecoderExport.Scripting.Namespace

/-!
# Attributes

The attribute of a datum with a name is a slot of its class, or else what the datum itself binds the
name to, or else another member of its class. Only exceptions and the objects of defined classes
bind names of their own.
-/

namespace DecoderExport.Scripting

open DecoderExport.Number (Double)

/-- The complaint that a datum does not have an attribute. -/
def noSuchAttribute (d : Datum) (name : String) : Raised :=
  .attributeError s!"'{d.typeName}' object has no attribute '{name}'"

/-- How messages name the class whose objects first had the slots of a class. -/
def ScriptClass.rootName : ScriptClass → String
  | defined d => d.ancestors.getLastD d.name
  | c => c.typeName

/-- The refusal to change a slot. -/
def unwritable (owner : ScriptClass) (name : String) : Raised :=
  .attributeError s!"attribute '{name}' of '{owner.rootName}' objects is not writable"

namespace Action

/-- Reads a slot of an object that is known by address. -/
def readField (address : Nat) (c : ScriptClass) (name : String) : Action Datum := do
  let held ← contents address
  match name, held.fields.lookup name with
  | "__dict__", _ => return nameTable
  | "args", _ => return held.arguments
  | "characters_written", none => throw (.attributeError name)
  | "__suppress_context__", none => return .bool false
  | "__isabstractmethod__", none => return .bool false
  | "__class__", _ => return .cls c
  | _, d => return d.getD .nothing

/-- Reads a slot of a routine. -/
def readRoutine (r : Routine) (receiver : Datum) (name : String) : Action Datum := do
  match name, r.owner with
  | "__name__", _ => return .constant r.name
  | "__qualname__", some owner => return .constant (owner.name ++ "." ++ r.name)
  | "__qualname__", none => return .constant r.name
  | "__self__", _ => return receiver
  | "__objclass__", some owner => return .cls owner
  | "__doc__", _ =>
    return if r.form = .defined then .nothing
      else ((routineDocumentation? r.name).map Datum.constant).getD .nothing
  | _, _ => return .nothing

/-- Reads a slot of a datum. Numbers, texts and lists are made anew each time. -/
def readSlot (d : Datum) (name : String) : Action Datum := do
  match d, name with
  | d, "__class__" => return .cls d.classOf
  | .hypothesis _ c, "text" => text c.text
  | .hypothesis _ c, "total_score" => fresh (.ofSingle · c.score)
  | .hypothesis _ c, "feature_values" => text c.features
  | .translation _ body _ _ _, "text" => text body
  | .translation _ _ hypotheses _ _, "hypotheses" => list hypotheses
  | .translation _ _ _ alignment _, "alignment" => ints alignment
  | .translation _ _ _ _ source, "source" => fresh (.ofText? · source)
  | .exporter a, "hypothesis_class" => text ((← get).exporter a).hypotheses.className
  | .exporter a, "translation_class" => text ((← get).exporter a).translations.className
  | .object a c, name => readField a c name
  | .routine r, name => readRoutine r (.module .exporter) name
  | .bound _ r receiver, name => readRoutine r receiver name
  | .float _ _, "imag" => fresh (.float · (.ofNat Number.double false 0))
  | .float stamp x, _ => return .float stamp x
  | .int _ _, "imag" => return .int 0 0
  | .int _ _, "denominator" => return .int 0 1
  | .int stamp n, _ => return .int stamp n
  | .bool _, "imag" => return .int 0 0
  | .bool _, "denominator" => return .int 0 1
  | .bool b, _ => return .int 0 b.toInt
  | _, _ => return .nothing

/-- Reads a slot of a class. -/
def readClass (c : ScriptClass) (name : String) : Action Datum := do
  let above := (c.lineage.drop 1).map Datum.cls
  match name with
  | "__class__" => return .cls c.cls
  | "__name__" | "__qualname__" => text c.name
  | "__module__" => text c.home.name
  | "__doc__" => return ((c.members.texts.lookup name).map Datum.constant).getD .nothing
  | "__dict__" => return .foreign 0 "mappingproxy"
  | "__annotations__" => return nameTable
  | "__mro__" => return .tuple (← stamps 1) (.cls c :: above)
  | "__bases__" => return .tuple (← stamps 1) (above.take 1)
  | "__base__" => return above.head?.getD .nothing
  | "__abstractmethods__" => throw (.attributeError name)
  | "__text_signature__" => return .nothing
  | _ => return .int 0 0

/-- The attribute of a class with a name: a slot of classes, or else a member of the class, or else
another member of classes. -/
def classAttribute (c : ScriptClass) (name : String) : Action Datum := do
  match c.cls.member? name, c.member? name with
  | some (_, .slot), _ | some (_, .field), _ => readClass c name
  | _, some (_, .slot) => return .foreign 0 "getset_descriptor"
  | _, some (_, .field) => return .foreign 0 "member_descriptor"
  | _, some (_, .constant t) => return (t.map Datum.constant).getD .nothing
  | _, some (owner, .routine .static) => bindRoutine owner c name .static .nothing
  | _, some (owner, .routine form) => return .routine ⟨some owner, name, form⟩
  | some (owner, .routine form), none =>
    if name = "__call__" then return .cls c else bindRoutine owner c.cls name form (.cls c)
  | some (_, .constant t), none => return (t.map Datum.constant).getD .nothing
  | none, none => throw (.attributeError s!"type object '{c.typeName}' has no attribute '{name}'")

/-- Reads an attribute. A routine is what calling it comes down to. -/
def getAttribute (d : Datum) (name : String) : Action Datum := do
  match d with
  | .module m => lookName m name
  | .cls c => classAttribute c name
  | d =>
    let c := d.classOf
    match c.member? name, (← ownNames d).lookup name with
    | some (_, .slot), _ | some (_, .field), _ => readSlot d name
    | _, some v => return v
    | some (owner, .routine form), none =>
      if name = "__call__" then return d else bindRoutine owner c name form d
    | some (_, .constant t), none => return (t.map Datum.constant).getD .nothing
    | none, none =>
      match d, (← ownNames d).lookup "__name__" with
      | .bound _ r _, _ =>
        throw (noSuchAttribute (if r.form = .defined then .routine r else d) name)
      | .object _ (.standard "module"), some (.text _ own) =>
        throw (.attributeError s!"module '{own}' has no attribute '{name}'")
      | d, _ => throw (noSuchAttribute d name)

/-- The items that a datum is made of, as far as it can be gone through. -/
def itemsOf (d : Datum) : Action (List Datum) := do
  match d with
  | .tuple _ items => return items
  | .list a => return (← get).lists.items a
  | .text _ s => freshAll (fun stamp c => .text stamp (String.singleton c)) s.toList
  | d => throw (.typeError s!"'{d.typeName}' object is not iterable")

/-- A tuple of the items of a datum. A tuple is its own. -/
def tupleOf (d : Datum) : Action Datum := do
  match d with
  | .tuple stamp items => return .tuple stamp items
  | d => return .tuple (← stamps 1) (← itemsOf d)

/-- Changes a field of an object that is known by address. -/
def keepField (address : Nat) (name : String) (value : Datum) : Action Unit := do
  let held ← contents address
  keep address { held with fields := held.fields.put name value }

/-- Whether a datum may be the cause of an exception. -/
def mayCause (d : Datum) : Bool := d.isSame .nothing || d.classOf.isException

/-- Changes a slot of an exception. -/
def writeException (address : Nat) (name : String) (value : Datum) : Action Unit := do
  match name with
  | "args" =>
    let arguments ← tupleOf value
    keep address { (← contents address) with arguments }
  | "__cause__" =>
    if !mayCause value then
      throw (.typeError "exception cause must be None or derive from BaseException")
    keepField address name value
    keepField address "__suppress_context__" (.bool true)
  | "__context__" =>
    if !mayCause value then
      throw (.typeError "exception context must be None or derive from BaseException")
    keepField address name value
  | "__traceback__" =>
    if !value.isSame .nothing then
      throw (.typeError "__traceback__ must be a traceback or None")
  | "__suppress_context__" =>
    if value.classOf ≠ .standard "bool" then
      throw (.typeError "attribute value type must be bool")
    keepField address name value
  | "characters_written" =>
    let n ← value.readInt
    if n < -9223372036854775808 ∨ 9223372036854775808 ≤ n then
      throw (.valueError "cannot fit 'int' into an index-sized integer")
    keepField address name value
  | _ => keepField address name value

/-- Changes a slot. -/
def writeSlot (owner : ScriptClass) (d : Datum) (name : String) (value : Datum) : Action Unit := do
  match d, name with
  | _, "__class__" => throw (refuseClass value)
  | .object _ _, "__dict__" =>
    if value.classOf ≠ .standard "dict" then
      throw (.typeError s!"__dict__ must be set to a dictionary, not a '{value.typeName}'")
    else throw (.unsupported "exchanging all attributes of an object")
  | _, "__weakref__" => throw (unwritable owner name)
  | .object a c, name =>
    if c.isException then writeException a name value
    else if (c.members.fields).contains name then throw (.attributeError "readonly attribute")
    else throw (unwritable owner name)
  | _, _ => throw (unwritable owner name)

/-- The refusal to change the attributes of a class, which are those that it was defined with. -/
def unsupportedOn (c : ScriptClass) : Raised :=
  .unsupported s!"changing the attributes of class '{c.fullName}'"

/-- Changes an attribute. -/
def setAttribute (d : Datum) (name : String) (value : Datum) : Action Datum := do
  match d with
  | .module m => putName m name value
  | .cls (.standard c) =>
    throw (.typeError s!"cannot set '{name}' attribute of immutable type '{c}'")
  | .cls c =>
    if name = "__class__" then throw (refuseClass value)
    else throw (unsupportedOn c)
  | d =>
    match d.classOf.member? name, d with
    | some (owner, .slot), _ | some (owner, .field), _ =>
      writeSlot owner d name value
      return .nothing
    | found, d =>
      match d, d.classOf.bindsNames with
      | .object a _, true =>
        let held ← contents a
        keep a { held with attributes := held.attributes.put name value }
        return .nothing
      | d, _ =>
        if found.isSome then
          throw (.attributeError s!"'{d.typeName}' object attribute '{name}' is read-only")
        else throw (noSuchAttribute d name)

/-- Forgets an attribute. -/
def dropAttribute (d : Datum) (name : String) : Action Datum := do
  match d with
  | .module m => dropName m name
  | .cls c => throw (unsupportedOn c)
  | d =>
    let names ← ownNames d
    match d, (names.lookup name).isSome with
    | .object a _, true =>
      keep a { (← contents a) with attributes := names.drop name }
      return .nothing
    | d, _ => throw (noSuchAttribute d name)

/-- The refusal to show the parts of a datum that has none to show. -/
def nothingToShow : Raised := .typeError "vars() argument must have __dict__ attribute"

/-- What a class shows of its members, unless some of them cannot be shown. -/
def shownMembers? (c : ScriptClass) : Option Names :=
  let routine name := (name, Datum.routine ⟨some c, name, .defined⟩)
  let common : Names := [("__module__", .constant c.home.name), ("__doc__", .nothing)]
  match c with
  | .fault f => if f = .any then none else some common
  | .metaclass _ => some (routine "__instancecheck__" :: common)
  | .defined d =>
    if d.ancestors.isEmpty then none
    else some (if d.owner = d.name then routine "__init__" :: common else common)
  | _ => none

/-- The attributes of a datum that are shown with it. -/
def attributes (d : Datum) : Action Names := do
  let read names := (names : List String).mapM fun name => return (name, ← readSlot d name)
  match d with
  | .hypothesis _ _ => read ["text", "total_score", "feature_values"]
  | .translation _ _ _ _ _ => read ["text", "hypotheses", "alignment", "source"]
  | .exporter _ => read ["hypothesis_class", "translation_class"]
  | .object a c => if c.bindsNames then return (← contents a).attributes else throw nothingToShow
  | .cls c =>
    match shownMembers? c with
    | some names => return names
    | none => throw nothingToShow
  | .routine ⟨_, _, .defined⟩ | .bound _ ⟨_, _, .defined⟩ _ => return []
  | _ => throw nothingToShow

end Action

end DecoderExport.Scripting
