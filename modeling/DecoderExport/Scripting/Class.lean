import DecoderExport.Text.Quoted

/-!
# Classes of the scripting host

The scripting host knows five sorts of classes: those of the exporter itself, the exceptions that
the exporter raises, the classes that scripts define, the classes of such classes, and the standard
classes. A defined class is given by the parameters of its constructor and by what the constructor
does with them.
-/

namespace DecoderExport.Scripting

/-- The modules that scripts can import. -/
inductive ScriptModule where
  /-- The module of the exporter. -/
  | exporter
  /-- The module of the standard classes. -/
  | standard
  /-- The module of the classes that scripts define. -/
  | script
  deriving DecidableEq, Repr

/-- The name of a module. -/
def ScriptModule.name : ScriptModule → String
  | exporter => "mtbridge"
  | standard => "builtins"
  | script => "mtbridge_runtime_classes"

/-- The class of hypotheses unless scripts ask for another. -/
def defaultHypothesisPath : String := ScriptModule.exporter.name ++ ".Hypothesis"

/-- The class of translations unless scripts ask for another. -/
def defaultTranslationPath : String := ScriptModule.exporter.name ++ ".Translation"

/-- The classes of the exporter. -/
inductive OwnClass where
  | hypothesis
  | translation
  | exporter
  deriving DecidableEq, Repr

/-- The name of a class of the exporter. -/
def OwnClass.name : OwnClass → String
  | hypothesis => "Hypothesis"
  | translation => "Translation"
  | exporter => "Marshaller"

/-- The exceptions that the exporter raises. -/
inductive FaultClass where
  /-- The class that the others extend. -/
  | any
  | linkage
  | construction
  | narrowing
  deriving DecidableEq, Repr

/-- The name of an exception of the exporter. -/
def FaultClass.name : FaultClass → String
  | any => "MtBridgeError"
  | linkage => "LinkageError"
  | construction => "ConstructionError"
  | narrowing => "NarrowingError"

/-- What a parameter stands for when it is left out. -/
inductive Fallback where
  | nothing
  | text (s : String)
  deriving DecidableEq, Repr

/-- A parameter of a constructor. One without fallback is required. -/
structure Parameter where
  name : String
  fallback : Option Fallback
  deriving DecidableEq, Repr

/-- What a defined constructor does, one thing after the other. -/
inductive Deed where
  /-- Keeps an argument as the attribute of the same name. -/
  | keep (parameter : String)
  /-- Keeps the list of all arguments. -/
  | keepAll (slot : String)
  /-- Raises unless the argument equals itself. -/
  | refuseNaN (parameter message : String)
  /-- Raises with the argument as a missing key. -/
  | raiseKey (parameter : String)
  /-- Raises with a text before the argument. -/
  | raiseLookup (lead parameter : String)
  deriving DecidableEq, Repr

/-- A class that scripts define. -/
structure Definition where
  name : String
  /-- The defined classes that this one extends, nearest first. -/
  ancestors : List String
  /-- The class whose constructor is run. -/
  owner : String
  parameters : List Parameter
  /-- Whether the constructor takes any number of arguments. -/
  takesAny : Bool
  /-- The required parameters that can only be given by name. -/
  named : List String
  /-- The class of the class, if scripts define that too. Such a class refuses to tell instances. -/
  metaclass : Option String
  deeds : List Deed
  deriving DecidableEq, Repr

/-- A class of the scripting host. -/
inductive ScriptClass where
  | own (c : OwnClass)
  | fault (c : FaultClass)
  | defined (d : Definition)
  | metaclass (name : String)
  | standard (name : String)
  deriving DecidableEq, Repr

namespace ScriptClass

/-- The name of a class inside its module. -/
def name : ScriptClass → String
  | own c => c.name
  | fault c => c.name
  | defined d => d.name
  | metaclass name => name
  | standard name => name

/-- The module of a class. -/
def home : ScriptClass → ScriptModule
  | own _ => .exporter
  | fault _ => .exporter
  | defined _ => .script
  | metaclass _ => .script
  | standard _ => .standard

/-- The name of a class with its module. -/
def fullName (c : ScriptClass) : String := c.home.name ++ "." ++ c.name

/-- How most messages name the class of an object: classes of the exporter come with their
module. -/
def typeName : ScriptClass → String
  | own c => (own c).fullName
  | c => c.name

/-- The class of a class. -/
def cls : ScriptClass → ScriptClass
  | defined d => (d.metaclass.map metaclass).getD (standard "type")
  | _ => standard "type"

end ScriptClass

/-- An exception that has been raised. -/
structure Raised where
  cls : ScriptClass
  message : String
  deriving DecidableEq, Repr

namespace Raised

/-- A standard exception. -/
def standard (name message : String) : Raised := ⟨.standard name, message⟩

/-- An argument of the wrong type. -/
def typeError (message : String) : Raised := standard "TypeError" message

/-- A value of the right type that will not do. -/
def valueError (message : String) : Raised := standard "ValueError" message

/-- A number that does not fit. -/
def overflow (message : String) : Raised := standard "OverflowError" message

/-- A name that an object or a module does not have. -/
def attributeError (message : String) : Raised := standard "AttributeError" message

/-- Data that are nested too deeply for what was being done with them. -/
def tooDeep (activity : String) : Raised :=
  standard "RecursionError" ("maximum recursion depth exceeded " ++ activity)

/-- Something that is beyond the interpreter. It is refused rather than passed over. -/
def unsupported (what : String) : Raised :=
  standard "NotImplementedError" (what ++ " is not supported")

instance : ToString Raised := ⟨fun r => r.cls.name ++ ": " ++ r.message⟩

end Raised

end DecoderExport.Scripting
