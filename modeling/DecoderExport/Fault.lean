import DecoderExport.Json.Reader
import DecoderExport.Payload
import DecoderExport.Signature

/-!
# Faults

Everything that can go wrong between a decoder output and the objects built from it, as causes. The
wording is in `Fault.message`, and the text of a wrapped cause in `Fault.source?`. The parameter `ρ`
is what a class of the host may raise.
-/

namespace DecoderExport

/-- Why a class or a constructor was not found. -/
inductive Unresolved where
  | classNotRegistered
  | noSuchConstructor
  | stated (message : String)
  deriving DecidableEq, Repr

/-- Why an object was not built. -/
inductive Rejection (ρ : Type) where
  | argumentCount (wanted actual : Nat)
  | argumentKind (index : Nat) (kind : ParamKind)
  | elementClass (index : Nat) (cls : String)
  /-- A validator of the class refused the arguments. -/
  | refused (message : String)
  /-- The class itself raised. -/
  | raised (exception : ρ)
  /-- Only a message, without a cause behind it. -/
  | stated (message : String)
  deriving DecidableEq, Repr

/-- Why a flat array is no alignment. -/
inductive Malformation where
  | oddLength (length : Nat)
  | negativeIndex (value : Int) (offset : Nat)
  | stated (message : String)
  deriving DecidableEq, Repr

/-- Why a configuration is refused. -/
inductive Misconfiguration where
  | badJson (refusal : Json.Refusal)
  | badFlag (raw : String)
  | blankHypothesisClass
  | blankTranslationClass
  | stated (message : String)

/-- Why a file could not be read as text. -/
inductive FileTrouble where
  | notFound
  | isDirectory
  | nameTooLong
  | notText
  | nulInName
  deriving DecidableEq, Repr

/-- What went wrong. -/
inductive Fault (ρ : Type) where
  /-- A class or, with a signature, one of its constructors was not found. -/
  | linkage (cls signature : String) (why : Unresolved)
  /-- An object was not built. -/
  | construction (cls : String) (why : Rejection ρ)
  /-- An alignment index does not fit the transfer width. -/
  | narrowing (position : Nat) (side : Side) (value : Nat) (max : Int)
  | malformedAlignment (why : Malformation)
  | configuration (why : Misconfiguration)
  | json (refusal : Json.Refusal)
  | io (path : String) (why : FileTrouble)

/-- The wording of an unresolved name. -/
def Unresolved.message : Unresolved → String
  | .classNotRegistered => "class not registered"
  | .noSuchConstructor => "no constructor with this signature"
  | .stated message => message

/-- The wording of a rejection. -/
def Rejection.message {ρ : Type} [ToString ρ] : Rejection ρ → String
  | .argumentCount wanted actual => s!"expected {wanted} arguments, got {actual}"
  | .argumentKind index kind => s!"argument {index} is not a {kind.display}"
  | .elementClass index cls => s!"array element {index} is not a {cls}"
  | .refused message => message
  | .raised exception => toString exception
  | .stated message => message

/-- The wording of a malformation. -/
def Malformation.message : Malformation → String
  | .oddLength length => s!"flat alignment has odd length {length}"
  | .negativeIndex value offset => s!"negative index {value} at offset {offset}"
  | .stated message => message

/-- The name of the variable that overrides the flag of a configuration. -/
def includeSourceVariable : String := "MTBRIDGE_INCLUDE_SOURCE"

/-- The wording of a misconfiguration. -/
def Misconfiguration.message : Misconfiguration → String
  | .badJson refusal => s!"Invalid bridge configuration: {refusal.message}"
  | .badFlag raw => s!"{includeSourceVariable} must be a boolean, got '{raw}'"
  | .blankHypothesisClass => "hypothesis_class must not be empty"
  | .blankTranslationClass => "translation_class must not be empty"
  | .stated message => message

/-- The wording of the system for a file that could not be read. -/
def FileTrouble.message : FileTrouble → String
  | .notFound => "No such file or directory (os error 2)"
  | .isDirectory => "Is a directory (os error 21)"
  | .nameTooLong => "File name too long (os error 36)"
  | .notText => "stream did not contain valid UTF-8"
  | .nulInName => "file name contained an unexpected NUL byte"

namespace Fault

variable {ρ : Type} [ToString ρ]

/-- The wording of a fault. -/
def message : Fault ρ → String
  | linkage cls signature why =>
    s!"Linkage error: cannot resolve {cls}{signature}: {why.message}"
  | construction cls why => s!"Construction error: {cls} - {why.message}"
  | narrowing position side value max =>
    s!"Narrowing error: {side.text} index {value} of alignment pair {position} exceeds {max}"
  | malformedAlignment why => s!"Malformed alignment: {why.message}"
  | configuration why => s!"Configuration error: {why.message}"
  | json refusal => s!"JSON error: {refusal.message}"
  | io path _ => s!"IO error: Failed to read config file {path}"

/-- The text of the cause that a fault wraps, if it wraps one. -/
def source? : Fault ρ → Option String
  | construction _ (.stated _) => none
  | construction _ why => some why.message
  | configuration (.badJson refusal) => some refusal.message
  | json refusal => some refusal.message
  | io _ why => some why.message
  | _ => none

omit [ToString ρ] in
/-- Whether the classes of the host do not fit the exporter. -/
def isLinkage : Fault ρ → Bool
  | linkage .. => true
  | _ => false

end Fault

end DecoderExport
