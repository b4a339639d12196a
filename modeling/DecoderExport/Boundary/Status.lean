import DecoderExport.Fault

/-!
# Status codes

Every call across the boundary ends in one of these. The numbers and the general wording are fixed;
what exactly went wrong is told by the last error of the library.
-/

namespace DecoderExport.Boundary

/-- How a call ended. -/
inductive Status where
  | success
  | invalidInput
  | jsonError
  | linkageError
  | constructionError
  | narrowingError
  | malformedAlignment
  | configurationError
  | internalError
  | memoryError
  | encodingError
  | nullPointer
  deriving DecidableEq, Repr

namespace Status

/-- All statuses, success first. -/
def all : List Status :=
  [success, invalidInput, jsonError, linkageError, constructionError, narrowingError,
    malformedAlignment, configurationError, internalError, memoryError, encodingError, nullPointer]

/-- The number of a status. -/
def code : Status → Int
  | success => 0
  | invalidInput => -1
  | jsonError => -2
  | linkageError => -3
  | constructionError => -4
  | narrowingError => -5
  | malformedAlignment => -6
  | configurationError => -7
  | internalError => -9
  | memoryError => -10
  | encodingError => -11
  | nullPointer => -12

/-- The general wording of a status. -/
def message : Status → String
  | success => "Success"
  | invalidInput => "Invalid input parameters"
  | jsonError => "JSON parsing error"
  | linkageError => "Class or constructor could not be resolved"
  | constructionError => "Object construction failed"
  | narrowingError => "Alignment index exceeds 32-bit range"
  | malformedAlignment => "Malformed alignment array"
  | configurationError => "Invalid configuration"
  | internalError => "Internal error"
  | memoryError => "Memory allocation failed"
  | encodingError => "Invalid UTF-8 string"
  | nullPointer => "Null pointer provided"

/-- Whether a call did what it was asked for. -/
def isSuccess (s : Status) : Bool := s = success

/-- The status with a number. -/
def ofCode? (code : Int) : Option Status := all.find? (·.code = code)

/-- The status that a fault is reported with. -/
def ofFault {ρ : Type} : Fault ρ → Status
  | .linkage .. => linkageError
  | .construction .. => constructionError
  | .narrowing .. => narrowingError
  | .malformedAlignment _ => malformedAlignment
  | .configuration _ => configurationError
  | .json _ => jsonError
  | .io .. => internalError

end Status

/-- Why a call failed: the status and the text that becomes the last error. -/
structure Failure where
  status : Status
  message : String
  deriving DecidableEq, Repr

/-- The failure that a fault is reported as. -/
def Failure.ofFault {ρ : Type} [ToString ρ] (fault : Fault ρ) : Failure :=
  ⟨.ofFault fault, fault.message⟩

/-- An argument that must not be absent. -/
def Failure.absent (name : String) : Failure := ⟨.nullPointer, s!"{name} is null"⟩

end DecoderExport.Boundary
