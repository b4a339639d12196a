import DecoderExport.Fault
import DecoderExport.Json.Record
import DecoderExport.Text.Blank

/-!
# The configuration of an exporter

Which classes the results are built from, and whether the source sentence is carried along. A
configuration comes from JSON text or a file, fields that are not spelled take their defaults, and
the environment overrides single fields. What the environment leaves behind is always valid.
-/

namespace DecoderExport

open DecoderExport.Json (Reader Shape Tree)

/-- The configuration of an exporter. -/
structure Config where
  hypothesisClass : String := defaultHypothesisClass
  translationClass : String := defaultTranslationClass
  includeSource : Bool := true
  deriving DecidableEq, Repr

/-- The variables of an environment with their bytes. -/
abbrev Environment := List (String × List UInt8)

/-- The text of a variable. A variable that is not UTF-8 counts as unset. -/
def Environment.get? (env : Environment) (name : String) : Option String :=
  (env.lookup name).bind Text.decodeUtf8?

/-- The name of the variable that overrides the hypothesis class. -/
def hypothesisClassVariable : String := "MTBRIDGE_HYPOTHESIS_CLASS"

/-- The name of the variable that overrides the translation class. -/
def translationClassVariable : String := "MTBRIDGE_TRANSLATION_CLASS"

/-- The truth value that a flag spells. -/
def parseFlag? (raw : String) : Option Bool :=
  let word := String.ofList ((Text.trim raw.toList).map Char.toLower)
  if word ∈ ["1", "true", "yes", "on"] then some true
  else if word ∈ ["0", "false", "no", "off"] then some false
  else none

namespace Config

/-- A configuration whose fields are still being read. -/
structure Draft where
  hypothesisClass : Option String
  translationClass : Option String
  includeSource : Option Bool

/-- The fields of a configuration; each has a default. -/
def shape : Shape Draft Config where
  name := "struct BridgeConfig"
  fields := [
    ⟨"hypothesis_class", fun d => d.hypothesisClass.isSome,
      Json.text.map fun s d => { d with hypothesisClass := some s }, false⟩,
    ⟨"translation_class", fun d => d.translationClass.isSome,
      Json.text.map fun s d => { d with translationClass := some s }, false⟩,
    ⟨"include_source", fun d => d.includeSource.isSome,
      Json.bool.map fun b d => { d with includeSource := some b }, false⟩]
  blank := ⟨none, none, none⟩
  build := fun d => .ok
    ⟨d.hypothesisClass.getD defaultHypothesisClass, d.translationClass.getD defaultTranslationClass,
      d.includeSource.getD true⟩

/-- A configuration is written with all its fields. -/
def toJson (c : Config) : Tree :=
  .object [("hypothesis_class", .string c.hypothesisClass),
    ("translation_class", .string c.translationClass), ("include_source", .bool c.includeSource)]

variable {ρ : Type}

/-- The configuration that a JSON text spells. -/
def ofJson (text : String) : Except (Fault ρ) Config :=
  match shape.reader.whole text with
  | .ok c => .ok c
  | .error refusal => .error (.configuration (.badJson refusal))

/-- The configuration in a file, from its path and the outcome of reading it. -/
def ofFile (path : String) (contents : Except FileTrouble (List UInt8)) :
    Except (Fault ρ) Config :=
  match contents with
  | .error why => .error (.io path why)
  | .ok bytes =>
    match Text.decodeUtf8? bytes with
    | none => .error (.io path .notText)
    | some text => ofJson text

/-- Checks that both class names show something. -/
def validate (c : Config) : Except (Fault ρ) Unit :=
  if Text.isAllBlank c.hypothesisClass.toList then
    .error (.configuration .blankHypothesisClass)
  else if Text.isAllBlank c.translationClass.toList then
    .error (.configuration .blankTranslationClass)
  else .ok ()

/-- The flag that the environment asks for, or the one given. -/
def flagFrom (env : Environment) (flag : Bool) : Except (Fault ρ) Bool :=
  match env.get? includeSourceVariable with
  | none => .ok flag
  | some raw =>
    match parseFlag? raw with
    | some b => .ok b
    | none => .error (.configuration (.badFlag raw))

/-- The configuration with the overrides of an environment. -/
def override (env : Environment) (c : Config) : Except (Fault ρ) Config := do
  let includeSource ← flagFrom env c.includeSource
  let merged : Config := {
    hypothesisClass := (env.get? hypothesisClassVariable).getD c.hypothesisClass
    translationClass := (env.get? translationClassVariable).getD c.translationClass
    includeSource }
  merged.validate
  return merged

end Config

end DecoderExport
