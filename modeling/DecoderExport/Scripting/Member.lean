import DecoderExport.Scripting.Documentation
import DecoderExport.Scripting.Standard

/-!
# Members of classes

A class keeps members under names: the slots of its instances, the routines that can be called on
them, and constants. A member is found in the first class of the lineage that has one of its name.
The tables hold the classes whose instances scripts can get hold of.
-/

namespace DecoderExport.Scripting

/-- The forms of routines, which differ in how they take arguments and in what they complain
about. -/
inductive Form where
  /-- A routine of the host, called on an instance. -/
  | method
  /-- What the host does for an operator or a built-in function, called on an instance. -/
  | operation
  /-- A routine of the host that needs no instance. -/
  | static
  /-- A routine that scripts define. -/
  | defined
  deriving DecidableEq, Repr

/-- A routine, with the class that keeps it if one does. -/
structure Routine where
  owner : Option ScriptClass
  name : String
  form : Form
  deriving DecidableEq, Repr

/-- What a class keeps under a name. -/
inductive Member where
  /-- A part of each instance, computed when it is asked for. -/
  | slot
  /-- A part of each instance, stored as it is. -/
  | field
  | routine (form : Form)
  | constant (value : Option String)
  deriving DecidableEq, Repr

/-- The names of the members of a class, by what they stand for. -/
structure Members where
  slots : List String := []
  fields : List String := []
  methods : List String := []
  operations : List String := []
  statics : List String := []
  defined : List String := []
  /-- Constant texts. -/
  texts : List (String × String) := []
  /-- Names that stand for nothing. -/
  blanks : List String := []

/-- The member with a name. -/
def Members.find? (m : Members) (name : String) : Option Member :=
  if m.slots.contains name then some .slot
  else if m.fields.contains name then some .field
  else if m.methods.contains name then some (.routine .method)
  else if m.operations.contains name then some (.routine .operation)
  else if m.statics.contains name then some (.routine .static)
  else if m.defined.contains name then some (.routine .defined)
  else if m.blanks.contains name then some (.constant none)
  else (m.texts.lookup name).map fun text => .constant (some text)

/-- The operations that compare. -/
def comparing : List String := ["__eq__", "__ge__", "__gt__", "__le__", "__lt__", "__ne__"]

/-- The operations of numbers. -/
def calculating : List String := [
  "__abs__", "__add__", "__bool__", "__divmod__", "__float__", "__floordiv__", "__int__",
  "__mod__", "__mul__", "__neg__", "__pos__", "__pow__", "__radd__", "__rdivmod__",
  "__rfloordiv__", "__rmod__", "__rmul__", "__rpow__", "__rsub__", "__rtruediv__", "__sub__",
  "__truediv__"]

/-- The operations of whole numbers on their binary digits. -/
def shifting : List String := [
  "__and__", "__index__", "__invert__", "__lshift__", "__or__", "__rand__", "__rlshift__",
  "__ror__", "__rrshift__", "__rshift__", "__rxor__", "__xor__"]

/-- The methods of texts. -/
def textMethods : List String := [
  "__format__", "__getnewargs__", "__sizeof__", "capitalize", "casefold", "center", "count",
  "encode", "endswith", "expandtabs", "find", "format", "format_map", "index", "isalnum",
  "isalpha", "isascii", "isdecimal", "isdigit", "isidentifier", "islower", "isnumeric",
  "isprintable", "isspace", "istitle", "isupper", "join", "ljust", "lower", "lstrip",
  "partition", "removeprefix", "removesuffix", "replace", "rfind", "rindex", "rjust",
  "rpartition", "rsplit", "rstrip", "split", "splitlines", "startswith", "strip", "swapcase",
  "title", "translate", "upper", "zfill"]

/-- The exceptions that share the making of their objects with those that extend them. -/
def sharedMakers : List String := ["ImportError", "NameError", "OSError", "SyntaxError"]

/-- The members that a standard class adds to those of the classes that it extends. -/
def standardMembers : String → Members
  | "object" => {
      slots := ["__class__"]
      methods := ["__dir__", "__format__", "__getstate__", "__reduce__", "__reduce_ex__",
        "__sizeof__"]
      operations := comparing ++ ["__delattr__", "__getattribute__", "__hash__", "__init__",
        "__repr__", "__setattr__", "__str__"]
      statics := ["__init_subclass__", "__new__", "__subclasshook__"] }
  | "type" => {
      slots := ["__abstractmethods__", "__annotations__", "__bases__", "__dict__", "__doc__",
        "__module__", "__name__", "__qualname__", "__text_signature__"]
      fields := ["__base__", "__basicsize__", "__dictoffset__", "__flags__", "__itemsize__",
        "__mro__", "__weakrefoffset__"]
      methods := ["__dir__", "__instancecheck__", "__sizeof__", "__subclasscheck__",
        "__subclasses__", "mro"]
      operations := ["__call__", "__delattr__", "__getattribute__", "__init__", "__or__",
        "__repr__", "__ror__", "__setattr__"]
      statics := ["__new__", "__prepare__"] }
  | "module" => {
      slots := ["__annotations__"]
      fields := ["__dict__"]
      methods := ["__dir__"]
      operations := ["__delattr__", "__getattribute__", "__init__", "__repr__", "__setattr__"]
      statics := ["__new__"] }
  | "builtin_function_or_method" => {
      slots := ["__doc__", "__name__", "__qualname__", "__self__", "__text_signature__"]
      fields := ["__module__"]
      methods := ["__reduce__"]
      operations := comparing ++ ["__call__", "__getattribute__", "__hash__", "__repr__"] }
  | "method_descriptor" => {
      slots := ["__doc__", "__qualname__", "__text_signature__"]
      fields := ["__name__", "__objclass__"]
      methods := ["__reduce__"]
      operations := ["__call__", "__get__", "__getattribute__", "__repr__"] }
  | "wrapper_descriptor" => {
      slots := ["__doc__", "__qualname__", "__text_signature__"]
      fields := ["__name__", "__objclass__"]
      methods := ["__reduce__"]
      operations := ["__call__", "__get__", "__getattribute__", "__repr__"] }
  | "method-wrapper" => {
      slots := ["__doc__", "__name__", "__objclass__", "__qualname__", "__text_signature__"]
      fields := ["__self__"]
      methods := ["__reduce__"]
      operations := comparing ++ ["__call__", "__getattribute__", "__hash__", "__repr__"] }
  | "function" => {
      slots := ["__annotations__", "__code__", "__defaults__", "__dict__", "__kwdefaults__",
        "__name__", "__qualname__"]
      fields := ["__builtins__", "__closure__", "__doc__", "__globals__", "__module__"]
      operations := ["__call__", "__get__", "__repr__"]
      statics := ["__new__"] }
  | "method" => {
      slots := ["__doc__"]
      fields := ["__func__", "__self__"]
      methods := ["__reduce__"]
      operations := comparing ++ ["__call__", "__delattr__", "__getattribute__", "__hash__",
        "__repr__", "__setattr__"]
      statics := ["__new__"] }
  | "NoneType" => {
      operations := ["__bool__", "__repr__"]
      statics := ["__new__"] }
  | "bool" => {
      operations := ["__and__", "__or__", "__rand__", "__repr__", "__ror__", "__rxor__", "__xor__"]
      statics := ["__new__"] }
  | "int" => {
      slots := ["denominator", "imag", "numerator", "real"]
      methods := ["__ceil__", "__floor__", "__format__", "__getnewargs__", "__round__",
        "__sizeof__", "__trunc__", "as_integer_ratio", "bit_count", "bit_length", "conjugate",
        "to_bytes"]
      operations := comparing ++ calculating ++ shifting ++
        ["__getattribute__", "__hash__", "__repr__"]
      statics := ["__new__", "from_bytes"] }
  | "float" => {
      slots := ["imag", "real"]
      methods := ["__ceil__", "__floor__", "__format__", "__getnewargs__", "__round__",
        "__trunc__", "as_integer_ratio", "conjugate", "hex", "is_integer"]
      operations := comparing ++ calculating ++ ["__getattribute__", "__hash__", "__repr__"]
      statics := ["__getformat__", "__new__", "fromhex"] }
  | "str" => {
      methods := textMethods
      operations := comparing ++ ["__add__", "__contains__", "__getattribute__", "__getitem__",
        "__hash__", "__iter__", "__len__", "__mod__", "__mul__", "__repr__", "__rmod__",
        "__rmul__", "__str__"]
      statics := ["__new__", "maketrans"] }
  | "list" => {
      methods := ["__getitem__", "__reversed__", "__sizeof__", "append", "clear", "copy", "count",
        "extend", "index", "insert", "pop", "remove", "reverse", "sort"]
      operations := comparing ++ ["__add__", "__contains__", "__delitem__", "__getattribute__",
        "__iadd__", "__imul__", "__init__", "__iter__", "__len__", "__mul__", "__repr__",
        "__rmul__", "__setitem__"]
      statics := ["__class_getitem__", "__new__"]
      blanks := ["__hash__"] }
  | "tuple" => {
      methods := ["__getnewargs__", "count", "index"]
      operations := comparing ++ ["__add__", "__contains__", "__getattribute__", "__getitem__",
        "__hash__", "__iter__", "__len__", "__mul__", "__repr__", "__rmul__"]
      statics := ["__class_getitem__", "__new__"] }
  | "slice" => {
      fields := ["start", "step", "stop"]
      methods := ["__reduce__", "indices"]
      operations := comparing ++ ["__getattribute__", "__repr__"]
      statics := ["__new__"]
      blanks := ["__hash__"] }
  | "map" => {
      methods := ["__reduce__"]
      operations := ["__getattribute__", "__iter__", "__next__"]
      statics := ["__new__"] }
  | "zip" => {
      methods := ["__reduce__", "__setstate__"]
      operations := ["__getattribute__", "__iter__", "__next__"]
      statics := ["__new__"] }
  | "property" => {
      slots := ["__isabstractmethod__"]
      fields := ["__doc__", "fdel", "fget", "fset"]
      methods := ["__set_name__", "deleter", "getter", "setter"]
      operations := ["__delete__", "__get__", "__getattribute__", "__init__", "__set__"]
      statics := ["__new__"] }
  | "BaseException" => {
      slots := ["__cause__", "__context__", "__dict__", "__traceback__", "args"]
      fields := ["__suppress_context__"]
      methods := ["__reduce__", "__setstate__", "add_note", "with_traceback"]
      operations := ["__delattr__", "__getattribute__", "__init__", "__repr__", "__setattr__",
        "__str__"]
      statics := ["__new__"] }
  | "OSError" => {
      slots := ["characters_written"]
      fields := ["errno", "filename", "filename2", "strerror"]
      methods := ["__reduce__"]
      operations := ["__init__", "__str__"]
      statics := ["__new__"] }
  | "SyntaxError" => {
      fields := ["end_lineno", "end_offset", "filename", "lineno", "msg", "offset",
        "print_file_and_line", "text"]
      operations := ["__init__", "__str__"] }
  | "ImportError" => {
      fields := ["msg", "name", "path"]
      methods := ["__reduce__"]
      operations := ["__init__", "__str__"] }
  | "AttributeError" => { fields := ["name", "obj"], operations := ["__init__", "__str__"] }
  | "NameError" => { fields := ["name"], operations := ["__init__", "__str__"] }
  | "StopIteration" => { fields := ["value"], operations := ["__init__"] }
  | "SystemExit" => { fields := ["code"], operations := ["__init__"] }
  | "KeyError" => { operations := ["__init__", "__str__"] }
  | name =>
    if !isStandardKind name "BaseException" then {}
    else if sharedMakers.any (isStandardKind name) then { operations := ["__init__"] }
    else { operations := ["__init__"], statics := ["__new__"] }

/-- The members that a class of the exporter adds to those that every object has. -/
def OwnClass.members (c : OwnClass) : Members :=
  let texts doc := [("__doc__", doc), ("__module__", ScriptModule.exporter.name)]
  match c with
  | hypothesis => {
      slots := ["feature_values", "text", "total_score"]
      operations := comparing ++ ["__repr__"]
      statics := ["__new__"]
      blanks := ["__hash__"]
      texts := texts "One candidate of the n-best list" }
  | translation => {
      slots := ["alignment", "hypotheses", "source", "text"]
      methods := ["alignment_pairs"]
      operations := ["__len__", "__repr__"]
      statics := ["__new__"]
      texts := texts "Translation result for one sentence" }
  | exporter => {
      slots := ["hypothesis_class", "translation_class"]
      methods := ["hypothesis", "marshal", "resolve", "translation"]
      statics := ["__new__", "from_env"]
      texts := texts ("Builds Python result objects from decoder output\n\n" ++
        "Class and constructor lookups happen on first use and are cached for the\n" ++
        "lifetime of the marshaller.") }

/-- The members that a class adds to those of the classes that it extends. -/
def ScriptClass.members : ScriptClass → Members
  | own c => c.members
  | fault c => {
      slots := if c = .any then ["__weakref__"] else []
      blanks := ["__doc__"]
      texts := [("__module__", ScriptModule.exporter.name)] }
  | defined _ => {
      slots := ["__dict__", "__weakref__"]
      defined := ["__init__"]
      blanks := ["__doc__"]
      texts := [("__module__", ScriptModule.script.name)] }
  | metaclass _ => {
      defined := ["__instancecheck__"]
      blanks := ["__doc__"]
      texts := [("__module__", ScriptModule.script.name)] }
  | standard name =>
    let members := standardMembers name
    match documentation? name with
    | some text => { members with texts := [("__doc__", text)] }
    | none => { members with blanks := "__doc__" :: members.blanks }

/-- The member of the instances of a class with a name, and the class that keeps it. -/
def ScriptClass.member? (c : ScriptClass) (name : String) : Option (ScriptClass × Member) :=
  c.lineage.findSome? fun owner => (owner.members.find? name).map fun m => (owner, m)

end DecoderExport.Scripting
