import DecoderExport.Handle

/-!
# Builders of hypotheses and translations

A builder holds the handles for one kind of result and builds objects of it. Every operation returns
the builder, whose handles may have been resolved on the way.
-/

namespace DecoderExport

open DecoderExport.Number (Single)

/-- Builds hypotheses and lists of them. -/
structure HypothesisBuilder (γ κ : Type) where
  handle : Handle γ κ

namespace HypothesisBuilder

variable {σ ω γ κ ρ : Type}

/-- A builder for a class. -/
def ofClass (className : String) : HypothesisBuilder γ κ :=
  ⟨{ className, signature := .hypothesis }⟩

/-- The name of the class that is built. -/
def className (b : HypothesisBuilder γ κ) : String := b.handle.className

/-- Looks the constructor up. -/
def resolve [Host σ ω γ κ ρ] (b : HypothesisBuilder γ κ) (s : σ) :
    Except (Fault ρ) Unit × HypothesisBuilder γ κ × σ :=
  let (reply, handle, s) := b.handle.resolve s
  (reply.map fun _ => (), ⟨handle⟩, s)

/-- Builds a hypothesis. -/
def create [Host σ ω γ κ ρ] (b : HypothesisBuilder γ κ) (c : Candidate) (s : σ) :
    Except (Fault ρ) ω × HypothesisBuilder γ κ × σ :=
  let (reply, handle, s) := b.handle.create [.text c.text, .float c.score, .text c.features] s
  (reply, ⟨handle⟩, s)

/-- Builds a hypothesis for each candidate in turn, up to the first that fails. -/
def createAll [Host σ ω γ κ ρ] (b : HypothesisBuilder γ κ) :
    List Candidate → σ → Except (Fault ρ) (List ω) × HypothesisBuilder γ κ × σ
  | [], s => (.ok [], b, s)
  | c :: cs, s =>
    match b.create c s with
    | (.error e, b, s) => (.error e, b, s)
    | (.ok o, b, s) =>
      let (reply, b, s) := b.createAll cs s
      (reply.map (o :: ·), b, s)

/-- Builds a list of hypotheses. -/
def newArray [Host σ ω γ κ ρ] (b : HypothesisBuilder γ κ) (elements : List ω) (s : σ) :
    Except (Fault ρ) ω × HypothesisBuilder γ κ × σ :=
  let (reply, handle, s) := b.handle.createArray elements s
  (reply, ⟨handle⟩, s)

end HypothesisBuilder

/-- Builds translations, without or with the source sentence. -/
structure TranslationBuilder (γ κ : Type) where
  narrow : Handle γ κ
  extended : Handle γ κ

namespace TranslationBuilder

variable {σ ω γ κ ρ : Type}

/-- A builder for a class that holds hypotheses of another class. -/
def ofClass (className hypothesisClass : String) : TranslationBuilder γ κ where
  narrow := { className, signature := .narrow hypothesisClass }
  extended := { className, signature := .extended hypothesisClass }

/-- The name of the class that is built. -/
def className (b : TranslationBuilder γ κ) : String := b.narrow.className

/-- Looks the narrow constructor up. -/
def resolve [Host σ ω γ κ ρ] (b : TranslationBuilder γ κ) (s : σ) :
    Except (Fault ρ) Unit × TranslationBuilder γ κ × σ :=
  let (reply, narrow, s) := b.narrow.resolve s
  (reply.map fun _ => (), { b with narrow }, s)

/-- Builds a translation without source. -/
def create [Host σ ω γ κ ρ] (b : TranslationBuilder γ κ) (text : String) (nbest alignment : ω)
    (s : σ) : Except (Fault ρ) ω × TranslationBuilder γ κ × σ :=
  let (reply, narrow, s) := b.narrow.create [.text text, .object nbest, .object alignment] s
  (reply, { b with narrow }, s)

/-- Builds a translation with its source. -/
def createWithSource [Host σ ω γ κ ρ] (b : TranslationBuilder γ κ) (text : String)
    (nbest alignment : ω) (source : String) (s : σ) :
    Except (Fault ρ) ω × TranslationBuilder γ κ × σ :=
  let (reply, extended, s) :=
    b.extended.create [.text text, .object nbest, .object alignment, .text source] s
  (reply, { b with extended }, s)

/-- Builds a translation with its source if there is one. -/
def build [Host σ ω γ κ ρ] (b : TranslationBuilder γ κ) (text : String) (nbest alignment : ω)
    (source : Option String) (s : σ) : Except (Fault ρ) ω × TranslationBuilder γ κ × σ :=
  match source with
  | some source => b.createWithSource text nbest alignment source s
  | none => b.create text nbest alignment s

end TranslationBuilder

end DecoderExport
