import DecoderExport.Objects.Value

/-!
# Class definitions

A class has named fields and constructors. A constructor assigns its arguments to fields in order;
it may carry a validator that looks at the arguments first. `ClassDef` holds the proof that each of
its constructors assigns every argument, and to declared fields only.
-/

namespace DecoderExport

/-- Looks at the arguments of a constructor, and says what is wrong with them. -/
abbrev Validator := List Value → Except String Unit

/-- A constructor of a class. -/
structure Constructor where
  signature : Signature
  /-- The field that each argument is assigned to. -/
  assigns : List String
  validator : Option Validator

/-- The text that shows a constructor. -/
def Constructor.debugText (c : Constructor) : String :=
  "ConstructorDef \x7b signature: " ++ c.signature.debugText ++ ", assigns: [" ++
    ", ".intercalate (c.assigns.map Text.quote) ++ "], validated: " ++
    toString c.validator.isSome ++ " \x7d"

/-- Whether a constructor assigns every argument, and to the given fields only. -/
def Constructor.Suits (c : Constructor) (fields : List String) : Prop :=
  c.assigns.length = c.signature.arity ∧ ∀ name ∈ c.assigns, name ∈ fields

/-- A class with its fields and constructors in the order of declaration. -/
structure ClassDef where
  name : String
  fields : List String
  constructors : List Constructor
  suited : ∀ c ∈ constructors, c.Suits fields

/-- Why a constructor cannot be added to a class. -/
inductive DefinitionFault where
  | assignCount (cls : String) (assigned wanted : Nat)
  | unknownField (cls field : String)
  deriving DecidableEq, Repr

/-- The wording of a definition fault. -/
def DefinitionFault.message : DefinitionFault → String
  | assignCount cls assigned wanted =>
    s!"assertion `left == right` failed: constructor of {cls} assigns {assigned} fields for " ++
      s!"{wanted} parameters\n  left: {wanted}\n right: {assigned}"
  | unknownField cls field => s!"constructor of {cls} assigns unknown field {field}"

namespace ClassDef

/-- A class without constructors. -/
def new (name : String) (fields : List String) : ClassDef := ⟨name, fields, [], by simp⟩

/-- The class with one more constructor, if that constructor suits it. -/
def addConstructor (cls : ClassDef) (c : Constructor) : Except DefinitionFault ClassDef :=
  if count : c.assigns.length = c.signature.arity then
    match h : c.assigns.find? (· ∉ cls.fields) with
    | some field => .error (.unknownField cls.name field)
    | none =>
      .ok ⟨cls.name, cls.fields, cls.constructors ++ [c], by
        intro k hk
        rcases List.mem_append.1 hk with hk | hk
        · exact cls.suited k hk
        · rw [List.mem_singleton.1 hk]
          exact ⟨count, by simpa using h⟩⟩
  else .error (.assignCount cls.name c.assigns.length c.signature.arity)

/-- The class with more constructors, or what is wrong with the first that does not suit it. -/
def addConstructors (cls : ClassDef) (cs : List Constructor) : Except DefinitionFault ClassDef :=
  cs.foldlM addConstructor cls

end ClassDef

/-- The class of hypotheses that a model starts with. -/
def hypothesisClass : ClassDef where
  name := defaultHypothesisClass
  fields := ["text", "totalScore", "featureValues"]
  constructors := [⟨.hypothesis, ["text", "totalScore", "featureValues"], none⟩]
  suited := by simp [Constructor.Suits, Signature.hypothesis, Signature.arity]

/-- The class of translations that a model starts with. Its narrow constructor leaves the source
null. -/
def translationClass : ClassDef where
  name := defaultTranslationClass
  fields := ["text", "hypotheses", "alignment", "source"]
  constructors := [
    ⟨.narrow defaultHypothesisClass, ["text", "hypotheses", "alignment"], none⟩,
    ⟨.extended defaultHypothesisClass, ["text", "hypotheses", "alignment", "source"], none⟩]
  suited := by simp [Constructor.Suits, Signature.narrow, Signature.extended, Signature.arity]

end DecoderExport
