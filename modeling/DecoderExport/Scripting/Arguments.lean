import DecoderExport.Config
import DecoderExport.Scripting.Datum

/-!
# Arguments

A call of the exporter comes with arguments by position and by name. They are first matched with the
parameters, and then each is read as what its parameter asks for, in the order of the parameters.
-/

namespace DecoderExport.Scripting

open DecoderExport.Number (Single)

/-- Something that can be called: how messages name it, and its parameters with whether each is
required. -/
structure Callable where
  title : String
  parameters : List (String × Bool)
  deriving DecidableEq, Repr

/-- The configuration of an exporter that scripts make without arguments. -/
def plainConfig : Config :=
  { hypothesisClass := defaultHypothesisPath, translationClass := defaultTranslationPath }

/-- What a translation is made from: hypotheses that have been built, and an alignment in some
form. -/
structure TranslationParts (α : Type) where
  text : String
  hypotheses : List Datum
  alignment : List α
  source : Option String

/-- Arguments that have been matched with parameters. -/
abbrev Matched := List (String × Datum)

/-- The names of parameters, each in quotes. -/
def quotedNames : List String → String
  | [] => ""
  | [a] => s!"'{a}'"
  | [a, b] => s!"'{a}' and '{b}'"
  | names =>
    let quoted := names.map fun a => s!"'{a}'"
    ", ".intercalate quoted.dropLast ++ ", and " ++ quoted.getLastD ""

/-- The refusal of a call that lacks arguments. -/
def missing (title sort : String) (names : List String) : Raised :=
  let noun := if names.length = 1 then "argument" else "arguments"
  .typeError (s!"{title} missing {names.length} required {sort} {noun}: " ++ quotedNames names)

/-- The word for so many. -/
def wereGiven (count : Nat) : String := if count = 1 then "was given" else "were given"

namespace Callable

/-- The refusal of too many arguments. -/
def tooMany (c : Callable) (count : Nat) : Raised :=
  let all := c.parameters.length
  let required := (c.parameters.filter (·.2)).length
  let takes := if required = all then s!"{all}" else s!"from {required} to {all}"
  .typeError s!"{c.title} takes {takes} positional arguments but {count} {wereGiven count}"

/-- Adds the arguments that are given by name. -/
def addNamed (c : Callable) (found : Matched) : List (String × Datum) → Except Raised Matched
  | [] => .ok found
  | (name, value) :: rest =>
    if (c.parameters.lookup name).isNone then
      .error (.typeError s!"{c.title} got an unexpected keyword argument '{name}'")
    else if (found.lookup name).isSome then
      .error (.typeError s!"{c.title} got multiple values for argument '{name}'")
    else c.addNamed (found ++ [(name, value)]) rest

/-- Matches arguments with parameters. -/
def bind (c : Callable) (args : List Datum) (named : List (String × Datum)) :
    Except Raised Matched :=
  if c.parameters.length < args.length then .error (c.tooMany args.length)
  else
    match c.addNamed ((c.parameters.map (·.1)).zip args) named with
    | .error e => .error e
    | .ok found =>
      match (c.parameters.filter fun p => p.2 && (found.lookup p.1).isNone).map (·.1) with
      | [] => .ok found
      | names => .error (missing c.title "positional" names)

end Callable

/-- The refusal of a call that takes no arguments at all. -/
def refuseArguments (title : String) (args : List Datum) (named : List (String × Datum)) :
    Except Raised Unit :=
  if !named.isEmpty then .error (.typeError s!"{title} takes no keyword arguments")
  else if !args.isEmpty then
    .error (.typeError s!"{title} takes no arguments ({args.length} given)")
  else .ok ()

namespace Datum

/-- The refusal of a datum of the wrong class. -/
def misfit (d : Datum) (wanted : String) : Raised :=
  .typeError s!"'{d.classOf.name}' object cannot be converted to '{wanted}'"

/-- Reads a text. -/
def readText : Datum → Except Raised String
  | text _ s => .ok s
  | d => .error (d.misfit "PyString")

/-- Reads a text that may be absent. -/
def readText? : Datum → Except Raised (Option String)
  | nothing => .ok none
  | d => d.readText.map some

/-- Reads a truth value. -/
def readFlag : Datum → Except Raised Bool
  | bool b => .ok b
  | d => .error (d.misfit "PyBool")

/-- Reads the items of a list or a tuple. -/
def readItems (lists : Lists) : Datum → Except Raised (List Datum)
  | list a => .ok (lists.items a)
  | tuple _ items => .ok items
  | text _ _ => .error (.typeError "Can't extract `str` to `Vec`")
  | d => .error (d.misfit "Sequence")

/-- Reads the items of a tuple of a certain length. -/
def readTuple (length : Nat) : Datum → Except Raised (List Datum)
  | tuple _ items =>
    if items.length = length then .ok items
    else .error (.valueError
      s!"expected tuple of length {length}, but got tuple of length {items.length}")
  | d => .error (d.misfit "PyTuple")

/-- Reads a whole number of any size. -/
def readInt : Datum → Except Raised Int
  | bool b => .ok b.toInt
  | int _ n => .ok n
  | d => .error (.typeError s!"'{d.typeName}' object cannot be interpreted as an integer")

/-- Reads an index. -/
def readIndex (d : Datum) : Except Raised UInt64 := do
  let n ← d.readInt
  if n < 0 then throw (.overflow "can't convert negative int to unsigned")
  else if 18446744073709551616 ≤ n then throw (.overflow "int too big to convert")
  else return UInt64.ofNat n.toNat

/-- Reads a 32-bit integer, by way of a 64-bit one. -/
def readInt32 (d : Datum) : Except Raised Int32 := do
  let n ← d.readInt
  if n < -9223372036854775808 ∨ 9223372036854775808 ≤ n then
    throw (.overflow "Python int too large to convert to C long")
  else if n < -2147483648 then throw (.overflow "number too small to fit in target type")
  else if 2147483648 ≤ n then throw (.overflow "number too large to fit in target type")
  else return Int32.ofInt n

/-- Reads a 32-bit number, by way of a 64-bit one. -/
def readSingle : Datum → Except Raised Single
  | float _ x => .ok (x.convert Number.single)
  | bool b => .ok (.ofNat Number.single false b.toNat)
  | int _ n =>
    let x := Number.Binary.ofNat Number.double (n < 0) n.natAbs
    if x.isInfinite then .error (.overflow "int too large to convert to float")
    else .ok (x.convert Number.single)
  | d => .error (.typeError s!"must be real number, not {d.typeName}")

/-- Reads a pair of indices. -/
def readPair (d : Datum) : Except Raised AlignmentPair := do
  match ← d.readTuple 2 with
  | [source, target] =>
    let source ← source.readIndex
    return ⟨source, ← target.readIndex⟩
  | _ => throw (d.misfit "PyTuple")

/-- Reads a candidate. -/
def readCandidate (d : Datum) : Except Raised Candidate := do
  match ← d.readTuple 3 with
  | [body, score, features] =>
    let body ← body.readText
    let score ← score.readSingle
    return ⟨body, score, ← features.readText⟩
  | _ => throw (d.misfit "PyTuple")

/-- Reads a list of pairs. -/
def readPairs (lists : Lists) (d : Datum) : Except Raised (List AlignmentPair) := do
  (← d.readItems lists).mapM readPair

/-- Reads a list of candidates. -/
def readCandidates (lists : Lists) (d : Datum) : Except Raised (List Candidate) := do
  (← d.readItems lists).mapM readCandidate

/-- Reads a list of 32-bit integers. -/
def readInts (lists : Lists) (d : Datum) : Except Raised (List Int32) := do
  (← d.readItems lists).mapM readInt32

end Datum

/-- Names the argument in front of a complaint about its type. -/
def blame {α : Type} (name : String) : Except Raised α → Except Raised α
  | .ok a => .ok a
  | .error e =>
    if e.cls.name = "TypeError" then .error (.typeError s!"argument '{name}': {e.message}")
    else .error e

namespace Matched

/-- Reads a required argument. -/
def required {α : Type} (m : Matched) (name : String) (read : Datum → Except Raised α) :
    Except Raised α :=
  blame name (read ((m.lookup name).getD .nothing))

/-- Reads an argument that has a fallback. -/
def optional {α : Type} (m : Matched) (name : String) (read : Datum → Except Raised α)
    (fallback : α) : Except Raised α :=
  match m.lookup name with
  | some d => blame name (read d)
  | none => .ok fallback

/-- Reads a candidate from the arguments of a hypothesis. -/
def candidate (m : Matched) : Except Raised Candidate := do
  let text ← m.required "text" Datum.readText
  let score ← m.required "total_score" Datum.readSingle
  return ⟨text, score, ← m.required "feature_values" Datum.readText⟩

/-- Reads the parts of a translation, the alignment in the form that the caller gives it. -/
def translationParts {α : Type} (m : Matched) (lists : Lists)
    (readAlignment : Lists → Datum → Except Raised (List α)) :
    Except Raised (TranslationParts α) := do
  let text ← m.required "text" Datum.readText
  let hypotheses ← m.required "hypotheses" (Datum.readItems lists)
  let alignment ← m.required "alignment" (readAlignment lists)
  return ⟨text, hypotheses, alignment, ← m.optional "source" Datum.readText? none⟩

/-- Reads the configuration of an exporter. -/
def config (m : Matched) : Except Raised Config := do
  let hypothesisClass ← m.optional "hypothesis_class" Datum.readText plainConfig.hypothesisClass
  let translationClass ← m.optional "translation_class" Datum.readText plainConfig.translationClass
  let includeSource ← m.optional "include_source" Datum.readFlag plainConfig.includeSource
  return { hypothesisClass, translationClass, includeSource }

/-- Reads a decoder output. -/
def decoderOutput (m : Matched) (lists : Lists) : Except Raised DecoderOutput := do
  let text ← m.required "text" Datum.readText
  let nbest ← m.optional "nbest" (Datum.readCandidates lists) []
  let alignment ← m.optional "alignment" (Datum.readPairs lists) []
  let source ← m.optional "source" Datum.readText? none
  return { text, source, nbest, alignment }

end Matched

end DecoderExport.Scripting
