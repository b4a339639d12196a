import DecoderExport.Json.Tree

/-!
# What the decoder produces for one sentence

The best translation, the n-best list in rank order, the word alignment, and the source sentence
where the caller wants it carried along; with the compact JSON text of each.
-/

namespace DecoderExport

open DecoderExport.Number (Single)
open DecoderExport.Json (Tree)

/-- Which half of an alignment pair an index belongs to. -/
inductive Side where
  | source
  | target
  deriving DecidableEq, Repr

/-- How messages name a side. -/
def Side.text : Side → String
  | .source => "source"
  | .target => "target"

/-- A source token and the target token that corresponds to it. -/
structure AlignmentPair where
  source : UInt64
  target : UInt64
  deriving DecidableEq, Repr

/-- One candidate of the n-best list. The score is never checked. -/
structure Candidate where
  text : String
  score : Single
  features : String
  deriving DecidableEq

/-- Everything that the decoder produced for one sentence. -/
structure DecoderOutput where
  text : String
  source : Option String
  nbest : List Candidate
  alignment : List AlignmentPair
  deriving DecidableEq

/-- A pair is written as a list of two indices. -/
def AlignmentPair.toJson (p : AlignmentPair) : Tree :=
  .array [.int p.source.toNat, .int p.target.toNat]

/-- A candidate is written with all its fields. -/
def Candidate.toJson (c : Candidate) : Tree :=
  .object [("text", .string c.text), ("totalScore", .single c.score),
    ("featureValues", .string c.features)]

/-- An output is written with all its fields, but without a source that is absent. -/
def DecoderOutput.toJson (o : DecoderOutput) : Tree :=
  .object (("text", .string o.text) ::
    ((o.source.map fun s => ("source", Tree.string s)).toList ++
    [("nbest", .array (o.nbest.map Candidate.toJson)),
      ("alignment", .array (o.alignment.map AlignmentPair.toJson))]))

end DecoderExport
