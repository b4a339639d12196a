import DecoderExport.Objects.ClassDef

/-!
# Ready-made validators

A rule looks at one argument. An argument that is absent or of another kind breaks it.
-/

namespace DecoderExport

/-- What one argument has to satisfy. -/
inductive Rule where
  | textNonempty
  | notNaN
  | finite
  | intsNonempty
  | elementsNonempty
  /-- Nothing satisfies it. -/
  | never
  deriving DecidableEq, Repr

/-- Whether a value satisfies a rule. -/
def Rule.holds : Rule → Value → Bool
  | textNonempty, .text s => s ≠ ""
  | notNaN, .float x => !x.isNaN
  | finite, .float x => x.isFinite
  | intsNonempty, .ints _ values => !values.isEmpty
  | elementsNonempty, .array _ _ elements => !elements.isEmpty
  | _, _ => false

/-- The validator that holds one argument to a rule. -/
def Rule.validator (rule : Rule) (arg : Nat) (message : String) : Validator := fun args =>
  if (args[arg]?).any rule.holds then .ok () else .error message

end DecoderExport
