import DecoderExport.Scripting.Class

/-!
# The standard classes

What the exporter meets when it is configured with a class of the standard module: whether the
signature of its constructor is known, and what the constructor makes of three or four arguments, of
which the first is a text.
-/

namespace DecoderExport.Scripting

/-- The standard exceptions, each with the exceptions that it extends, nearest first. -/
def exceptionAncestors : List (String × List String) := [
  ("ArithmeticError", ["Exception", "BaseException"]),
  ("AssertionError", ["Exception", "BaseException"]),
  ("AttributeError", ["Exception", "BaseException"]), ("BaseException", []),
  ("BaseExceptionGroup", ["BaseException"]),
  ("BlockingIOError", ["OSError", "Exception", "BaseException"]),
  ("BrokenPipeError", ["ConnectionError", "OSError", "Exception", "BaseException"]),
  ("BufferError", ["Exception", "BaseException"]),
  ("BytesWarning", ["Warning", "Exception", "BaseException"]),
  ("ChildProcessError", ["OSError", "Exception", "BaseException"]),
  ("ConnectionAbortedError", ["ConnectionError", "OSError", "Exception", "BaseException"]),
  ("ConnectionError", ["OSError", "Exception", "BaseException"]),
  ("ConnectionRefusedError", ["ConnectionError", "OSError", "Exception", "BaseException"]),
  ("ConnectionResetError", ["ConnectionError", "OSError", "Exception", "BaseException"]),
  ("DeprecationWarning", ["Warning", "Exception", "BaseException"]),
  ("EOFError", ["Exception", "BaseException"]),
  ("EncodingWarning", ["Warning", "Exception", "BaseException"]), ("Exception", ["BaseException"]),
  ("ExceptionGroup", ["BaseExceptionGroup", "Exception", "BaseException"]),
  ("FileExistsError", ["OSError", "Exception", "BaseException"]),
  ("FileNotFoundError", ["OSError", "Exception", "BaseException"]),
  ("FloatingPointError", ["ArithmeticError", "Exception", "BaseException"]),
  ("FutureWarning", ["Warning", "Exception", "BaseException"]),
  ("GeneratorExit", ["BaseException"]), ("ImportError", ["Exception", "BaseException"]),
  ("ImportWarning", ["Warning", "Exception", "BaseException"]),
  ("IndentationError", ["SyntaxError", "Exception", "BaseException"]),
  ("IndexError", ["LookupError", "Exception", "BaseException"]),
  ("InterruptedError", ["OSError", "Exception", "BaseException"]),
  ("IsADirectoryError", ["OSError", "Exception", "BaseException"]),
  ("KeyError", ["LookupError", "Exception", "BaseException"]),
  ("KeyboardInterrupt", ["BaseException"]), ("LookupError", ["Exception", "BaseException"]),
  ("MemoryError", ["Exception", "BaseException"]),
  ("ModuleNotFoundError", ["ImportError", "Exception", "BaseException"]),
  ("NameError", ["Exception", "BaseException"]),
  ("NotADirectoryError", ["OSError", "Exception", "BaseException"]),
  ("NotImplementedError", ["RuntimeError", "Exception", "BaseException"]),
  ("OSError", ["Exception", "BaseException"]),
  ("OverflowError", ["ArithmeticError", "Exception", "BaseException"]),
  ("PendingDeprecationWarning", ["Warning", "Exception", "BaseException"]),
  ("PermissionError", ["OSError", "Exception", "BaseException"]),
  ("ProcessLookupError", ["OSError", "Exception", "BaseException"]),
  ("RecursionError", ["RuntimeError", "Exception", "BaseException"]),
  ("ReferenceError", ["Exception", "BaseException"]),
  ("ResourceWarning", ["Warning", "Exception", "BaseException"]),
  ("RuntimeError", ["Exception", "BaseException"]),
  ("RuntimeWarning", ["Warning", "Exception", "BaseException"]),
  ("StopAsyncIteration", ["Exception", "BaseException"]),
  ("StopIteration", ["Exception", "BaseException"]),
  ("SyntaxError", ["Exception", "BaseException"]),
  ("SyntaxWarning", ["Warning", "Exception", "BaseException"]),
  ("SystemError", ["Exception", "BaseException"]), ("SystemExit", ["BaseException"]),
  ("TabError", ["IndentationError", "SyntaxError", "Exception", "BaseException"]),
  ("TimeoutError", ["OSError", "Exception", "BaseException"]),
  ("TypeError", ["Exception", "BaseException"]),
  ("UnboundLocalError", ["NameError", "Exception", "BaseException"]),
  ("UnicodeDecodeError", ["UnicodeError", "ValueError", "Exception", "BaseException"]),
  ("UnicodeEncodeError", ["UnicodeError", "ValueError", "Exception", "BaseException"]),
  ("UnicodeError", ["ValueError", "Exception", "BaseException"]),
  ("UnicodeTranslateError", ["UnicodeError", "ValueError", "Exception", "BaseException"]),
  ("UnicodeWarning", ["Warning", "Exception", "BaseException"]),
  ("UserWarning", ["Warning", "Exception", "BaseException"]),
  ("ValueError", ["Exception", "BaseException"]), ("Warning", ["Exception", "BaseException"]),
  ("ZeroDivisionError", ["ArithmeticError", "Exception", "BaseException"])]

/-- The second names of standard exceptions. -/
def exceptionAliases : List (String × String) := [
  ("EnvironmentError", "OSError"), ("IOError", "OSError")]

/-- The standard classes whose constructors take a few arguments at most, and say so. -/
def narrowStandardClasses : List String :=
  ["complex", "enumerate", "float", "list", "memoryview", "object", "reversed", "tuple"]

/-- The other standard classes that are no exceptions. -/
def wideStandardClasses : List String :=
  ["bool", "bytearray", "bytes", "classmethod", "dict", "filter", "frozenset", "int", "map",
    "property", "range", "set", "slice", "staticmethod", "str", "super", "type", "zip"]

/-- The functions and constants of the standard module. -/
def standardOthers : List String := [
  "Ellipsis", "False", "None", "NotImplemented", "True", "__build_class__", "__debug__",
  "__import__", "abs", "aiter", "all", "anext", "any", "ascii", "bin", "breakpoint", "callable",
  "chr", "compile", "copyright", "credits", "delattr", "dir", "divmod", "eval", "exec",
  "exit", "format", "getattr", "globals", "hasattr", "hash", "help", "hex", "id", "input",
  "isinstance", "issubclass", "iter", "len", "license", "locals", "max", "min", "next",
  "oct", "open", "ord", "pow", "print", "quit", "repr", "round", "setattr", "sorted", "sum",
  "vars"]

/-- The standard class with a name. -/
def standardClass? (name : String) : Option ScriptClass :=
  let name := (exceptionAliases.lookup name).getD name
  if (exceptionAncestors.lookup name).isSome || narrowStandardClasses.contains name ||
      wideStandardClasses.contains name then
    some (.standard name)
  else none

/-- The standard classes of which the signature of the constructor is known. -/
def signedStandardClasses : List String := narrowStandardClasses ++ ["BuiltinImporter", "module"]

/-- The standard classes that a standard class extends, nearest first. -/
def standardAncestors (name : String) : List String :=
  match exceptionAncestors.lookup name with
  | some ancestors => ancestors ++ ["object"]
  | none => if name = "bool" then ["int", "object"] else if name = "object" then [] else ["object"]

/-- How complaints about single arguments name a type. -/
def saidType (type : String) : String := if type = "NoneType" then "None" else type

/-- Why no class is made of arguments, given the names of their types. -/
def newClassRefusal? (types : List String) : Option String :=
  match types with
  | [name, bases, names] =>
    [(1, "str", name), (2, "tuple", bases), (3, "dict", names)].findSome? fun (n, wanted, type) =>
      if type = wanted then none
      else some s!"type.__new__() argument {n} must be {wanted}, not {saidType type}"
  | _ => some s!"type.__new__() takes exactly 3 arguments ({types.length} given)"

/-- Why a standard constructor refuses arguments, given the names of their types; nothing when it
accepts them. -/
def standardRefusal? (name : String) (types : List String) : Option String :=
  let count := types.length
  let second := types.getD 1 ""
  let atMost := s!"{name} expected at most 1 argument, got {count}"
  match name with
  | "bool" | "dict" | "float" | "frozenset" | "list" | "set" | "tuple" => some atMost
  | "classmethod" | "reversed" | "staticmethod" =>
    some s!"{name} expected 1 argument, got {count}"
  | "complex" | "enumerate" | "int" => some s!"{name}() takes at most 2 arguments ({count} given)"
  | "memoryview" => some s!"{name}() takes at most 1 argument ({count} given)"
  | "object" => some "object() takes no arguments"
  | "filter" => some s!"filter expected 2 arguments, got {count}"
  | "super" => some s!"super() expected at most 2 arguments, got {count}"
  | "bytearray" | "bytes" | "str" =>
    if 3 < count then some s!"{name}() takes at most 3 arguments ({count} given)"
    else some s!"{name}() argument 'encoding' must be str, not {second}"
  | "range" =>
    if 3 < count then some s!"range expected at most 3 arguments, got {count}"
    else some "'str' object cannot be interpreted as an integer"
  | "slice" => if 3 < count then some s!"slice expected at most 3 arguments, got {count}" else none
  | "map" | "zip" => if second = "float" then some "'float' object is not iterable" else none
  | "type" => if count = 3 then newClassRefusal? types else some "type() takes 1 or 3 arguments"
  | "module" =>
    if count = 0 then some "module() missing required argument 'name' (pos 1)"
    else if 2 < count then some s!"module() takes at most 2 arguments ({count} given)"
    else
      let first := types.getD 0 ""
      if first = "str" then none
      else some s!"module() argument 'name' must be str, not {saidType first}"
  | "BaseExceptionGroup" | "ExceptionGroup" =>
    some s!"BaseExceptionGroup.__new__() takes exactly 2 arguments ({count} given)"
  | "UnicodeDecodeError" | "UnicodeEncodeError" =>
    some s!"function takes exactly 5 arguments ({count} given)"
  | "UnicodeTranslateError" =>
    if count = 4 then some s!"'{second}' object cannot be interpreted as an integer"
    else some s!"function takes exactly 4 arguments ({count} given)"
  | _ => none

/-- Whether a standard class is another one or extends it. -/
def isStandardKind (name base : String) : Bool :=
  name = base || (standardAncestors name).contains base

/-- The classes that a class extends, by their names with modules. -/
def ScriptClass.ancestors : ScriptClass → List String
  | own _ => ["builtins.object"]
  | fault c =>
    (if c = .any then [] else [(ScriptClass.fault .any).fullName]) ++
      ["builtins.Exception", "builtins.BaseException", "builtins.object"]
  | defined d =>
    d.ancestors.map (fun name => ScriptModule.script.name ++ "." ++ name) ++ ["builtins.object"]
  | metaclass _ => ["builtins.type", "builtins.object"]
  | standard name => (standardAncestors name).map fun name => (standard name).fullName

/-- Whether a class is another one or extends it. -/
def ScriptClass.isKindOf (c base : ScriptClass) : Bool :=
  c.fullName = base.fullName || c.ancestors.contains base.fullName

/-- A class and the classes that it extends, in the order in which names are looked up in them. What
classes that scripts define hand down, they all have themselves. -/
def ScriptClass.lineage (c : ScriptClass) : List ScriptClass :=
  let standards := match c with
    | fault _ => ["Exception", "BaseException", "object"]
    | standard name => standardAncestors name
    | metaclass _ => ["type", "object"]
    | _ => ["object"]
  let faults := match c with
    | fault f => if f = .any then [] else [fault .any]
    | _ => []
  c :: faults ++ standards.map standard

/-- Whether the instances of a class are exceptions. -/
def ScriptClass.isException (c : ScriptClass) : Bool := c.isKindOf (.standard "BaseException")

end DecoderExport.Scripting
