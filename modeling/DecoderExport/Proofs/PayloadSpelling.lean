import DecoderExport.Payload.Reader
import DecoderExport.Proofs.RecordSpelling

/-!
# Every spelling of a payload is read the same

The spellings of candidates, alignment pairs and outputs, and that the readers of the payload read
them all as the value that was spelled. An output that repeats the key of a field, its own or one of
a candidate in its n-best list, is refused for that.
-/

namespace DecoderExport

open DecoderExport.Json

/-- The spellings of an alignment pair. -/
def AlignmentPair.Spelled (p : AlignmentPair) : Spelling :=
  Enclosed .list [Index p.source, Index p.target]

theorem AlignmentPair.reader_reads (p : AlignmentPair) :
    Reads AlignmentPair.reader p p.Spelled := by
  have h := pairOf_reads index_reads p.source p.target
  exact h.map fun x => (⟨x.1, x.2⟩ : AlignmentPair)

namespace Candidate

/-- The score of a candidate. -/
def scoreField : FieldSpelling Candidate :=
  ⟨"totalScore", fun c => Score c.score, fun _ => False⟩

/-- The fields of a candidate. -/
def fields : List (FieldSpelling Candidate) := [
  ⟨"text", fun c => Text c.text, fun _ => False⟩,
  scoreField,
  ⟨"featureValues", fun c => Text c.features, fun c => c.features = ""⟩]

/-- The spellings of a candidate. -/
def Spelled (c : Candidate) : Spelling := RecordForm fields c

/-- The part of a candidate that the fields of the given names make. -/
def part (c : Candidate) (names : List String) : Draft where
  text := heldIf names "text" c.text
  score := heldIf names "totalScore" c.score
  features := heldIf names "featureValues" c.features

theorem shape_follows (c : Candidate) : shape.Follows fields c c.part where
  blank := rfl
  slots := by
    have hheld {β : Type} (name : String) (b : β) names := isSome_heldIf names name b
    refine .cons ⟨rfl, hheld _ _, nofun, _, (text_reads c.text).map _, ?_⟩
      (.cons ⟨rfl, hheld _ _, nofun, _, (single_reads c.score).map _, ?_⟩
        (.cons ⟨rfl, hheld _ _, fun _ => rfl, _, (text_reads c.features).map _, ?_⟩ .nil))
    all_goals simp [part, scoreField]
  other := by
    intro key names h
    have ⟨h1, h2, h3⟩ : "text" ≠ key ∧ "totalScore" ≠ key ∧ "featureValues" ≠ key := by
      simpa [fields, scoreField] using h
    simp [part, h1, h2, h3]
  build := by
    intro names h
    have ⟨h1, h2, h3⟩ : "text" ∈ names ∧ "totalScore" ∈ names ∧
        ("featureValues" ∉ names → c.features = "") := by
      simpa [fields, scoreField] using h
    have htext : heldIf names "text" c.text = some c.text := if_pos h1
    have hscore : heldIf names "totalScore" c.score = some c.score := if_pos h2
    simp only [shape, part, htext, hscore, getD_heldIf h3]

theorem reader_reads (c : Candidate) : Reads Candidate.reader c c.Spelled :=
  Json.reader_reads c.shape_follows

/-- A candidate fails at a score that fails. -/
theorem score_fails (c : Candidate) {why : Cause → Prop} {q : List Char → Prop}
    (hq : Fails Json.single why q) : Fails reader why (RecordUntil fields c scoreField q) := by
  apply recordUntil_fails c.shape_follows (by simp [fields])
  refine List.forall_mem_cons.2 ⟨fun h => absurd h (by decide), ?_⟩
  refine List.forall_mem_cons.2 ⟨fun _ => hq.map _, ?_⟩
  exact List.forall_mem_cons.2 ⟨fun h => absurd h (by decide), nofun⟩

end Candidate

namespace DecoderOutput

/-- The n-best list of an output. -/
def nbestField : FieldSpelling DecoderOutput :=
  ⟨"nbest", fun o => Enclosed .list (o.nbest.map Candidate.Spelled), fun o => o.nbest = []⟩

/-- The fields of an output. -/
def fields : List (FieldSpelling DecoderOutput) := [
  ⟨"text", fun o => Text o.text, fun _ => False⟩,
  ⟨"source", fun o => Nullable Text o.source, fun o => o.source = none⟩,
  nbestField,
  ⟨"alignment", fun o => Enclosed .list (o.alignment.map AlignmentPair.Spelled),
    fun o => o.alignment = []⟩]

/-- The spellings of an output. -/
def Spelled (o : DecoderOutput) : Spelling := RecordForm fields o

/-- The part of an output that the fields of the given names make. -/
def part (o : DecoderOutput) (names : List String) : Draft where
  text := heldIf names "text" o.text
  source := heldIf names "source" o.source
  nbest := heldIf names "nbest" o.nbest
  alignment := heldIf names "alignment" o.alignment

theorem shape_follows (o : DecoderOutput) : shape.Follows fields o o.part where
  blank := rfl
  slots := by
    have hheld {β : Type} (name : String) (b : β) names := isSome_heldIf names name b
    have hnbest := listOf_reads Candidate.reader_reads o.nbest
    have halignment := listOf_reads AlignmentPair.reader_reads o.alignment
    refine .cons ⟨rfl, hheld _ _, nofun, _, (text_reads o.text).map _, ?_⟩
      (.cons ⟨rfl, hheld _ _, fun _ => rfl, _, (optionalText_reads o.source).map _, ?_⟩
        (.cons ⟨rfl, hheld _ _, fun _ => rfl, _, hnbest.map _, ?_⟩
          (.cons ⟨rfl, hheld _ _, fun _ => rfl, _, halignment.map _, ?_⟩ .nil)))
    all_goals simp [part, nbestField]
  other := by
    intro key names h
    have ⟨h1, h2, h3, h4⟩ : "text" ≠ key ∧ "source" ≠ key ∧ "nbest" ≠ key ∧ "alignment" ≠ key := by
      simpa [fields, nbestField] using h
    simp [part, h1, h2, h3, h4]
  build := by
    intro names h
    have ⟨h1, h2, h3, h4⟩ : "text" ∈ names ∧ ("source" ∉ names → o.source = none) ∧
        ("nbest" ∉ names → o.nbest = []) ∧ ("alignment" ∉ names → o.alignment = []) := by
      simpa [fields, nbestField] using h
    have htext : heldIf names "text" o.text = some o.text := if_pos h1
    simp only [shape, part, htext, getD_heldIf h2, getD_heldIf h3, getD_heldIf h4]

theorem reader_reads (o : DecoderOutput) : Reads DecoderOutput.reader o o.Spelled :=
  Json.reader_reads o.shape_follows

/-- A text that repeats the key of a field of an output, or the key of a field of a candidate in its
n-best list. Any text may stand behind the repeated key. -/
def Repeats (o : DecoderOutput) (name : String) (s : List Char) : Prop :=
  RepeatedKey fields o name s ∨
    ∃ (cs : List Candidate) (c : Candidate), RecordUntil fields o nbestField
      (EnclosedUntil .list (cs.map Candidate.Spelled) (RepeatedKey Candidate.fields c name)) s

/-- An output fails at a candidate that fails. -/
theorem nbest_fails (o : DecoderOutput) (cs : List Candidate) {why : Cause → Prop}
    {q : List Char → Prop} (hq : Fails Candidate.reader why q) :
    Fails reader why
      (RecordUntil fields o nbestField (EnclosedUntil .list (cs.map Candidate.Spelled) q)) := by
  have hlist := listOf_fails Candidate.reader_reads hq cs
  apply recordUntil_fails o.shape_follows (by simp [fields])
  refine List.forall_mem_cons.2 ⟨fun h => absurd h (by decide), ?_⟩
  refine List.forall_mem_cons.2 ⟨fun h => absurd h (by decide), ?_⟩
  refine List.forall_mem_cons.2 ⟨fun _ => hlist.map _, ?_⟩
  exact List.forall_mem_cons.2 ⟨fun h => absurd h (by decide), nofun⟩

/-- Every text that spells an output is read as this output, and a text that repeats a key is
refused for that. -/
theorem whole_of_spelling (o : DecoderOutput) :
    (∀ text, Document o.Spelled text → reader.whole text = .ok o) ∧
      ∀ name text, DocumentUntil (o.Repeats name) text →
        ∃ e, reader.whole text = .error e ∧ e.cause = .duplicateField name := by
  constructor
  · exact fun text h => o.reader_reads.whole h
  · rintro name text ⟨s, hs, h | ⟨cs, c, h⟩⟩
    · exact (repeatedKey_fails o.shape_follows name).whole ⟨s, hs, h⟩
    · exact (nbest_fails o cs (repeatedKey_fails c.shape_follows name)).whole ⟨s, hs, h⟩

theorem whole_of_spelling_reordered :
    reader.whole "\x7b\"nbest\" : [[\"b\",1]],\"x\":[],\"text\":\"\\u0061\"\x7d" =
        .ok ⟨"a", none, [⟨"b", .ofNat Number.single false 1, ""⟩], []⟩ ∧
      ∃ e, reader.whole "\x7b\"text\":\"a\",\"text\":0\x7d" = .error e ∧
        e.cause = .duplicateField "text" := by
  constructor
  · have htext : "\x7b\"nbest\" : [[\"b\",1]],\"x\":[],\"text\":\"\\u0061\"\x7d".toList =
        ['\x7b', '"', 'n', 'b', 'e', 's', 't', '"', ' ', ':', ' ', '[', '[', '"', 'b', '"', ',',
          '1', ']', ']', ',', '"', 'x', '"', ':', '[', ']', ',', '"', 't', 'e', 'x', 't', '"', ':',
          '"', '\\', 'u', '0', '0', '6', '1', '"', '\x7d'] := by decide
    have hscore (t) : Score (.ofNat Number.single false 1) ('1' :: t) t :=
      ⟨.ofNat 1, rfl, single_whole_iff.2 rfl⟩
    have hcandidate (t) : Candidate.Spelled ⟨"b", .ofNat Number.single false 1, ""⟩
        ('[' :: '"' :: 'b' :: '"' :: ',' :: '1' :: ']' :: t) t :=
      .inr ⟨Candidate.fields.take 2, Candidate.fields.drop 2, rfl, by simp [Candidate.fields], _,
        rfl, .item (.first (.none _)) (text_stringText "b" _)
          (.item (.next (.none _) (.none _)) (hscore _) (.close (.none _)))⟩
    have hother (t) : WellFormed none ('[' :: ']' :: t) t :=
      @WellFormed.framed .list _ _ (.close (.none _))
    apply (whole_of_spelling _).1
    refine ⟨_, [], .none _, .inl ⟨["nbest", "x", "text"], ?_, ?_, ?_⟩, .none _⟩
    · decide
    · simp [fields, nbestField]
    · rw [htext]
      refine ⟨_, rfl, ?_⟩
      apply Items.item (.first (.none _))
      · exact ⟨_, ⟨_, _, text_stringText "nbest" _, .more rfl (.none _), .more rfl (.none _)⟩,
          _, rfl, .item (.first (.none _)) (hcandidate _) (.close (.none _))⟩
      apply Items.item (.next (.none _) (.none _))
      · exact ⟨_, ⟨_, _, text_stringText "x" _, .none _, .none _⟩, hother _⟩
      apply Items.item (.next (.none _) (.none _))
      · exact ⟨_, ⟨_, _, text_stringText "text" _, .none _, .none _⟩,
          _, rfl, .char (.code (by decide)) .close⟩
      exact .close (.none _)
  · have htext : "\x7b\"text\":\"a\",\"text\":0\x7d".toList =
        ['\x7b', '"', 't', 'e', 'x', 't', '"', ':', '"', 'a', '"', ',', '"', 't', 'e', 'x', 't',
          '"', ':', '0', '\x7d'] := by decide
    apply (whole_of_spelling ⟨"a", none, [], []⟩).2
    refine ⟨_, .none _, .inl ⟨["text"], ?_, by decide, ⟨_, List.mem_cons_self, rfl⟩, ?_⟩⟩
    · decide
    · rw [htext]
      refine ⟨_, rfl, ?_⟩
      apply ItemsUntil.item (.first (.none _))
      · exact ⟨_, ⟨_, _, text_stringText "text" _, .none _, .none _⟩, text_stringText "a" _⟩
      exact .here (.next (.none _) (.none _)) ⟨_, text_stringText "text" _⟩

end DecoderOutput

end DecoderExport
