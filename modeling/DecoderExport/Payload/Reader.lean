import DecoderExport.Json.Record
import DecoderExport.Payload

/-!
# Reading what the decoder produced

The readers of the payload. A candidate needs a text and a score, an output needs a text; all other
fields may be absent.
-/

namespace DecoderExport

open DecoderExport.Number (Single)
open DecoderExport.Json (Field Reader Shape)

/-- Reads an alignment pair. -/
def AlignmentPair.reader : Reader AlignmentPair :=
  (Json.pairOf Json.index).map fun (source, target) => ⟨source, target⟩

/-- A candidate whose fields are still being read. -/
structure Candidate.Draft where
  text : Option String
  score : Option Single
  features : Option String

/-- The fields of a candidate. -/
def Candidate.shape : Shape Candidate.Draft Candidate where
  name := "struct Candidate"
  fields := [
    ⟨"text", fun d => d.text.isSome, Json.text.map fun s d => { d with text := some s }, true⟩,
    ⟨"totalScore", fun d => d.score.isSome,
      Json.single.map fun x d => { d with score := some x }, true⟩,
    ⟨"featureValues", fun d => d.features.isSome,
      Json.text.map fun s d => { d with features := some s }, false⟩]
  blank := ⟨none, none, none⟩
  build := fun d =>
    match d.text, d.score with
    | some text, some score => .ok ⟨text, score, d.features.getD ""⟩
    | none, _ => .error "text"
    | _, none => .error "totalScore"

/-- Reads a candidate. -/
def Candidate.reader : Reader Candidate := Candidate.shape.reader

/-- An output whose fields are still being read. -/
structure DecoderOutput.Draft where
  text : Option String
  source : Option (Option String)
  nbest : Option (List Candidate)
  alignment : Option (List AlignmentPair)

/-- The fields of an output. -/
def DecoderOutput.shape : Shape DecoderOutput.Draft DecoderOutput where
  name := "struct DecoderOutput"
  fields := [
    ⟨"text", fun d => d.text.isSome, Json.text.map fun s d => { d with text := some s }, true⟩,
    ⟨"source", fun d => d.source.isSome,
      (Json.optional Json.text).map fun s d => { d with source := some s }, false⟩,
    ⟨"nbest", fun d => d.nbest.isSome,
      (Json.listOf Candidate.reader).map fun cs d => { d with nbest := some cs }, false⟩,
    ⟨"alignment", fun d => d.alignment.isSome,
      (Json.listOf AlignmentPair.reader).map fun ps d => { d with alignment := some ps }, false⟩]
  blank := ⟨none, none, none, none⟩
  build := fun d =>
    match d.text with
    | some text => .ok ⟨text, d.source.getD none, d.nbest.getD [], d.alignment.getD []⟩
    | none => .error "text"

/-- Reads an output. -/
def DecoderOutput.reader : Reader DecoderOutput := DecoderOutput.shape.reader

end DecoderExport
