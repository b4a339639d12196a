import DecoderExport.Text.Quoted

/-!
# Constructor signatures

A constructor is picked by the kinds of its parameters. Signatures have a short text for messages
and a long one that shows their structure.
-/

namespace DecoderExport

/-- The class of hypotheses unless another is configured. -/
def defaultHypothesisClass : String := "mtbridge/Hypothesis"

/-- The class of translations unless another is configured. -/
def defaultTranslationClass : String := "mtbridge/Translation"

/-- The kind of a constructor parameter. -/
inductive ParamKind where
  | text
  | float
  | ints
  /-- A list of objects of the named class. -/
  | objects (cls : String)
  deriving DecidableEq, Repr

/-- The short text of a kind. -/
def ParamKind.display : ParamKind → String
  | .text => "String"
  | .float => "f32"
  | .ints => "i32[]"
  | .objects cls => cls ++ "[]"

/-- The long text of a kind. -/
def ParamKind.debugText : ParamKind → String
  | .text => "String"
  | .float => "Float"
  | .ints => "IntArray"
  | .objects cls => "ObjectArray(" ++ Text.quote cls ++ ")"

/-- The kinds of the parameters of a constructor, in order. -/
structure Signature where
  params : List ParamKind
  deriving DecidableEq, Repr

namespace Signature

/-- The number of parameters. -/
def arity (s : Signature) : Nat := s.params.length

/-- The short text of a signature. -/
def display (s : Signature) : String :=
  "(" ++ ", ".intercalate (s.params.map ParamKind.display) ++ ")"

/-- The long text of a signature. -/
def debugText (s : Signature) : String :=
  "Signature \x7b params: [" ++ ", ".intercalate (s.params.map ParamKind.debugText) ++ "] \x7d"

/-- The constructor of a hypothesis takes a text, a score and feature values. -/
def hypothesis : Signature := ⟨[.text, .float, .text]⟩

/-- The narrow constructor of a translation takes a text, hypotheses and an alignment. -/
def narrow (hypothesisClass : String) : Signature := ⟨[.text, .objects hypothesisClass, .ints]⟩

/-- The extended constructor of a translation takes the source sentence as well. -/
def extended (hypothesisClass : String) : Signature :=
  ⟨(narrow hypothesisClass).params ++ [.text]⟩

end Signature

end DecoderExport
