/-!
# What classes and routines say of themselves

The documentation of the standard classes whose instances scripts can get hold of, and of routines.
What is not listed says nothing.
-/

namespace DecoderExport.Scripting

/-- The documentation of the standard exceptions. -/
def exceptionDocumentation : List (String × String) := [
  ("ArithmeticError", "Base class for arithmetic errors."),
  ("AssertionError", "Assertion failed."),
  ("AttributeError", "Attribute not found."),
  ("BaseException", "Common base class for all exceptions"),
  ("BaseExceptionGroup", "A combination of multiple unrelated exceptions."),
  ("BlockingIOError", "I/O operation would block."),
  ("BrokenPipeError", "Broken pipe."),
  ("BufferError", "Buffer error."),
  ("BytesWarning",
    "Base class for warnings about bytes and buffer related problems, mostly\n" ++
    "related to conversion from str or comparing to str."),
  ("ChildProcessError", "Child process error."),
  ("ConnectionAbortedError", "Connection aborted."),
  ("ConnectionError", "Connection error."),
  ("ConnectionRefusedError", "Connection refused."),
  ("ConnectionResetError", "Connection reset."),
  ("DeprecationWarning", "Base class for warnings about deprecated features."),
  ("EOFError", "Read beyond end of file."),
  ("EncodingWarning", "Base class for warnings about encodings."),
  ("Exception", "Common base class for all non-exit exceptions."),
  ("FileExistsError", "File already exists."),
  ("FileNotFoundError", "File not found."),
  ("FloatingPointError", "Floating point operation failed."),
  ("FutureWarning",
    "Base class for warnings about constructs that will change semantically\nin the future."),
  ("GeneratorExit", "Request that a generator exit."),
  ("ImportError", "Import can't find module, or can't find name in module."),
  ("ImportWarning", "Base class for warnings about probable mistakes in module imports"),
  ("IndentationError", "Improper indentation."),
  ("IndexError", "Sequence index out of range."),
  ("InterruptedError", "Interrupted by signal."),
  ("IsADirectoryError", "Operation doesn't work on directories."),
  ("KeyError", "Mapping key not found."),
  ("KeyboardInterrupt", "Program interrupted by user."),
  ("LookupError", "Base class for lookup errors."),
  ("MemoryError", "Out of memory."),
  ("ModuleNotFoundError", "Module not found."),
  ("NameError", "Name not found globally."),
  ("NotADirectoryError", "Operation only works on directories."),
  ("NotImplementedError", "Method or function hasn't been implemented yet."),
  ("OSError", "Base class for I/O related errors."),
  ("OverflowError", "Result too large to be represented."),
  ("PendingDeprecationWarning",
    "Base class for warnings about features which will be deprecated\nin the future."),
  ("PermissionError", "Not enough permissions."),
  ("ProcessLookupError", "Process not found."),
  ("RecursionError", "Recursion limit exceeded."),
  ("ReferenceError", "Weak ref proxy used after referent went away."),
  ("ResourceWarning", "Base class for warnings about resource usage."),
  ("RuntimeError", "Unspecified run-time error."),
  ("RuntimeWarning", "Base class for warnings about dubious runtime behavior."),
  ("StopAsyncIteration", "Signal the end from iterator.__anext__()."),
  ("StopIteration", "Signal the end from iterator.__next__()."),
  ("SyntaxError", "Invalid syntax."),
  ("SyntaxWarning", "Base class for warnings about dubious syntax."),
  ("SystemError",
    "Internal error in the Python interpreter.\n\n" ++
    "Please report this to the Python maintainer, along with the traceback,\n" ++
    "the Python version, and the hardware/OS platform and version."),
  ("SystemExit", "Request to exit from the interpreter."),
  ("TabError", "Improper mixture of spaces and tabs."),
  ("TimeoutError", "Timeout expired."),
  ("TypeError", "Inappropriate argument type."),
  ("UnboundLocalError", "Local name referenced but not bound to a value."),
  ("UnicodeDecodeError", "Unicode decoding error."),
  ("UnicodeEncodeError", "Unicode encoding error."),
  ("UnicodeError", "Unicode related error."),
  ("UnicodeTranslateError", "Unicode translation error."),
  ("UnicodeWarning",
    "Base class for warnings about Unicode related problems, mostly\n" ++
    "related to conversion problems."),
  ("UserWarning", "Base class for warnings generated by user code."),
  ("ValueError", "Inappropriate argument value (of correct type)."),
  ("Warning", "Base class for warning categories."),
  ("ZeroDivisionError", "Second argument to a division or modulo operation was zero.")]

/-- The documentation of the other standard classes. -/
def datumDocumentation : List (String × String) := [
  ("bool",
    "bool(x) -> bool\n\nReturns True when the argument x is true, False otherwise.\n" ++
    "The builtins True and False are the only two instances of the class bool.\n" ++
    "The class bool is a subclass of the class int, and cannot be subclassed."),
  ("float", "Convert a string or number to a floating point number, if possible."),
  ("int",
    "int([x]) -> integer\nint(x, base=10) -> integer\n\n" ++
    "Convert a number or string to an integer, or return 0 if no arguments\n" ++
    "are given.  If x is a number, return x.__int__().  For floating point\n" ++
    "numbers, this truncates towards zero.\n\n" ++
    "If x is not a number or if base is given, then x must be a string,\n" ++
    "bytes, or bytearray instance representing an integer literal in the\n" ++
    "given base.  The literal can be preceded by '+' or '-' and be surrounded\n" ++
    "by whitespace.  The base defaults to 10.  Valid bases are 0 and 2-36.\n" ++
    "Base 0 means to interpret the base from the string as an integer literal.\n" ++
    ">>> int('0b100', base=0)\n4"),
  ("list",
    "Built-in mutable sequence.\n\n" ++
    "If no argument is given, the constructor creates a new empty list.\n" ++
    "The argument must be an iterable if specified."),
  ("map",
    "map(func, *iterables) --> map object\n\n" ++
    "Make an iterator that computes the function using arguments from\n" ++
    "each of the iterables.  Stops when the shortest iterable is exhausted."),
  ("module",
    "Create a module object.\n\n" ++
    "The name must be a string; the optional doc argument can have any type."),
  ("property",
    "Property attribute.\n\n  fget\n    function to be used for getting an attribute value\n" ++
    "  fset\n    function to be used for setting an attribute value\n  fdel\n" ++
    "    function to be used for del'ing an attribute\n  doc\n    docstring\n\n" ++
    "Typical use is to define a managed attribute x:\n\nclass C(object):\n" ++
    "    def getx(self): return self._x\n    def setx(self, value): self._x = value\n" ++
    "    def delx(self): del self._x\n" ++
    "    x = property(getx, setx, delx, \"I'm the 'x' property.\")\n\n" ++
    "Decorators make defining new properties or modifying existing ones easy:\n\n" ++
    "class C(object):\n    @property\n    def x(self):\n        \"I am the 'x' property.\"\n" ++
    "        return self._x\n    @x.setter\n    def x(self, value):\n        self._x = value\n" ++
    "    @x.deleter\n    def x(self):\n        del self._x"),
  ("slice",
    "slice(stop)\nslice(start, stop[, step])\n\n" ++
    "Create a slice object.  This is used for extended slicing (e.g. a[0:10:2])."),
  ("str",
    "str(object='') -> str\nstr(bytes_or_buffer[, encoding[, errors]]) -> str\n\n" ++
    "Create a new string object from the given object. If encoding or\n" ++
    "errors is specified, then the object must expose a data buffer\n" ++
    "that will be decoded using the given encoding and error handler.\n" ++
    "Otherwise, returns the result of object.__str__() (if defined)\nor repr(object).\n" ++
    "encoding defaults to sys.getdefaultencoding().\nerrors defaults to 'strict'."),
  ("tuple",
    "Built-in immutable sequence.\n\n" ++
    "If no argument is given, the constructor returns an empty tuple.\n" ++
    "If iterable is specified the tuple is initialized from iterable's items.\n\n" ++
    "If the argument is a tuple, the return value is the same object."),
  ("zip",
    "zip(*iterables, strict=False) --> Yield tuples until an input is exhausted.\n\n" ++
    "   >>> list(zip('abcdefg', range(3), range(4)))\n" ++
    "   [('a', 0, 0), ('b', 1, 1), ('c', 2, 2)]\n\n" ++
    "The zip object yields n-length tuples, where n is the number of iterables\n" ++
    "passed as positional arguments to zip().  The i-th element in every tuple\n" ++
    "comes from the i-th iterable argument to zip().  This continues until the\n" ++
    "shortest argument is exhausted.\n\n" ++
    "If strict is true and one of the arguments is exhausted before the others,\n" ++
    "raise a ValueError.")]

/-- The documentation of the routines of the exporter. -/
def exporterDocumentation : List (String × String) := [
  ("alignment_pairs", "Alignment as `(source, target)` tuples"),
  ("decode_alignment", "Inverse of `encode_alignment`"),
  ("encode_alignment", "Flatten `(source, target)` pairs into `[s0, t0, s1, t1, ...]`"),
  ("from_env", "Marshaller configured from `MTBRIDGE_*` environment variables"),
  ("marshal",
    "Convert one decoder output\n\n" ++
    "`nbest` holds `(text, total_score, feature_values)` tuples in rank\n" ++
    "order; an empty list yields an empty hypothesis list."),
  ("resolve", "Resolve both classes now instead of on first use"),
  ("translation", "Build a translation from already constructed hypotheses"),
  ("version", "Get the version of the MTBridge library")]

/-- The documentation of the operations that data have in common. -/
def operationDocumentation : List (String × String) := [
  ("__add__", "Return self+value."), ("__bool__", "True if self else False"),
  ("__call__", "Call self as a function."), ("__contains__", "Return key in self."),
  ("__delattr__", "Implement delattr(self, name)."), ("__delitem__", "Delete self[key]."),
  ("__eq__", "Return self==value."), ("__ge__", "Return self>=value."),
  ("__getattribute__", "Return getattr(self, name)."), ("__getitem__", "Return self[key]."),
  ("__gt__", "Return self>value."), ("__hash__", "Return hash(self)."),
  ("__init__", "Initialize self.  See help(type(self)) for accurate signature."),
  ("__iter__", "Implement iter(self)."), ("__le__", "Return self<=value."),
  ("__len__", "Return len(self)."), ("__lt__", "Return self<value."),
  ("__mul__", "Return self*value."), ("__ne__", "Return self!=value."),
  ("__new__", "Create and return a new object.  See help(type) for accurate signature."),
  ("__repr__", "Return repr(self)."), ("__rmul__", "Return value*self."),
  ("__setattr__", "Implement setattr(self, name, value)."),
  ("__setitem__", "Set self[key] to value."), ("__str__", "Return str(self).")]

/-- What a routine says of itself. -/
def routineDocumentation? (name : String) : Option String :=
  (exporterDocumentation.lookup name).orElse fun _ => operationDocumentation.lookup name

/-- What a standard class says of itself. -/
def documentation? (name : String) : Option String :=
  (exceptionDocumentation.lookup name).orElse fun _ => datumDocumentation.lookup name

end DecoderExport.Scripting
