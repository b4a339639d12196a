import DecoderExport.Builder
import DecoderExport.Config

/-!
# The exporter

An exporter turns what the decoder produced into objects of a host. The alignment is encoded before
anything is built, so an index that does not fit leaves no trace. Lookups happen when they are first
needed and are kept for the lifetime of the exporter.
-/

namespace DecoderExport

/-- Turns decoder outputs into objects. -/
structure Exporter (γ κ : Type) where
  hypotheses : HypothesisBuilder γ κ
  translations : TranslationBuilder γ κ
  includeSource : Bool

namespace Exporter

variable {σ ω γ κ ρ : Type}

/-- An exporter with nothing looked up yet. -/
def ofConfig (c : Config) : Exporter γ κ where
  hypotheses := .ofClass c.hypothesisClass
  translations := .ofClass c.translationClass c.hypothesisClass
  includeSource := c.includeSource

/-- The source sentence that goes into the result. -/
def sourceOf (e : Exporter γ κ) (o : DecoderOutput) : Option String :=
  if e.includeSource then o.source else none

/-- Builds the translation around hypotheses that have been built. -/
def finish [Host σ ω γ κ ρ] (e : Exporter γ κ) (text : String) (objects : List ω)
    (alignment : Alignment) (source : Option String) (s : σ) :
    Except (Fault ρ) ω × Exporter γ κ × σ :=
  match e.hypotheses.newArray objects s with
  | (.error f, hypotheses, s) => (.error f, { e with hypotheses }, s)
  | (.ok nbest, hypotheses, s) =>
    match Host.newInts alignment.flat s with
    | (.error f, s) => (.error f, { e with hypotheses }, s)
    | (.ok ints, s) =>
      let (reply, translations, s) := e.translations.build text nbest ints source s
      (reply, { e with hypotheses, translations }, s)

/-- Builds the translation that a decoder output stands for. -/
def marshal [Host σ ω γ κ ρ] (e : Exporter γ κ) (o : DecoderOutput) (s : σ) :
    Except (Fault ρ) ω × Exporter γ κ × σ :=
  match Alignment.encode o.alignment with
  | .error f => (.error f, e, s)
  | .ok alignment =>
    match e.hypotheses.createAll o.nbest s with
    | (.error f, hypotheses, s) => (.error f, { e with hypotheses }, s)
    | (.ok objects, hypotheses, s) =>
      { e with hypotheses }.finish o.text objects alignment (e.sourceOf o) s

end Exporter

end DecoderExport
