import DecoderExport.Proofs.PayloadSpelling
import DecoderExport.Proofs.Rendering

/-!
# A payload that is written and read again

What is written for an output is one of its spellings, with every score replaced by what its printed
number is read as. So reading gives back everything but the scores as it was, and each score as that
number. A score that is not finite is written as `null`, and there reading fails.
-/

namespace DecoderExport

open DecoderExport.Json
open DecoderExport.Number (Single)

/-- A candidate that was written and read again. Its score is what its printed number is read as. -/
structure Candidate.Reread (c c' : Candidate) : Prop where
  text : c'.text = c.text
  score : Json.single.whole (Tree.single c.score).render = .ok c'.score
  features : c'.features = c.features

/-- An output that was written and read again. -/
structure DecoderOutput.Reread (o o' : DecoderOutput) : Prop where
  text : o'.text = o.text
  source : o'.source = o.source
  nbest : List.Forall₂ Candidate.Reread o.nbest o'.nbest
  alignment : o'.alignment = o.alignment

namespace Json

/-! ### Scores -/

/-- Texts that begin with `null`. -/
def Null (s : List Char) : Prop := ∃ t, s = 'n' :: 'u' :: 'l' :: 'l' :: t

theorem null_fails : Fails single (· = .wrongType .null "f32") Null where
  opens := by
    rintro s ⟨t, rfl⟩
    exact ⟨_, _, rfl, by decide, by decide⟩
  read := by
    rintro s' s hs ⟨t, rfl⟩
    refine ⟨.here (.wrongType .null "f32") t, ?_, rfl⟩
    show readSingle s' = _
    unfold readSingle readNumber
    rw [hs.token (by decide)]
    rfl

theorem single_chars_null {x : Single} (h : x.isFinite = false) :
    (Tree.single x).chars = ['n', 'u', 'l', 'l'] := by
  rw [Tree.chars, floatText, h]
  rfl

/-- The number that is printed for a finite score is read. -/
theorem single_reread {x : Single} (h : x.isFinite = true) :
    ∃ y, single.whole (Tree.single x).render = .ok y := by
  obtain ⟨l, hl, hv⟩ := floatText_literal h
  obtain ⟨n, hn⟩ := Option.isSome_iff_exists.1 hv
  refine ⟨n.toSingle, ?_⟩
  rw [Tree.render, Tree.chars, hl]
  exact single_whole_iff.2 (by rw [hn]; rfl)

theorem single_writes {x y : Single} (h : single.whole (Tree.single x).render = .ok y) :
    Writes (Tree.single x).chars (Score y) := by
  cases hx : x.isFinite with
  | true =>
    obtain ⟨l, hl, -⟩ := floatText_literal hx
    rw [Tree.render, Tree.chars, hl] at h
    intro t
    exact ⟨l, by rw [Tree.chars, hl], h⟩
  | false =>
    have hnull : DocumentUntil Null (Tree.single x).render := by
      refine ⟨_, .none _, [], ?_⟩
      rw [Tree.render, String.toList_ofList, single_chars_null hx]
    obtain ⟨e, he, -⟩ := null_fails.whole hnull
    rw [he] at h
    cases h

end Json

/-! ### Candidates -/

namespace Candidate

theorem exists_reread {cs : List Candidate} (h : ∀ c ∈ cs, c.score.isFinite = true) :
    ∃ cs', List.Forall₂ Candidate.Reread cs cs' := by
  induction cs with
  | nil => exact ⟨[], .nil⟩
  | cons c cs ih =>
    obtain ⟨hc, hcs⟩ := List.forall_mem_cons.1 h
    obtain ⟨y, hy⟩ := single_reread hc
    obtain ⟨cs', hcs'⟩ := ih hcs
    exact ⟨⟨c.text, y, c.features⟩ :: cs', .cons ⟨rfl, hy, rfl⟩ hcs'⟩

theorem writes {c c' : Candidate} (h : c.Reread c') : Writes c.toJson.chars c'.Spelled := by
  have htext : Writes (memberText ("text", .string c.text)) (Member fields c' "text") :=
    member_writes rfl (h.text ▸ string_writes c.text)
  have hscore : Writes (memberText ("totalScore", .single c.score))
      (Member fields c' "totalScore") :=
    member_writes rfl (single_writes h.score)
  have hfeatures : Writes (memberText ("featureValues", .string c.features))
      (Member fields c' "featureValues") :=
    member_writes rfl (h.features ▸ string_writes c.features)
  intro t
  refine .inl ⟨["text", "totalScore", "featureValues"], ?_, ?_, ?_⟩
  · decide
  · simp [fields, scoreField]
  · exact object_writes (.cons htext (.cons hscore (.cons hfeatures .nil))) t

/-- What is written for a candidate whose score is not finite, up to the score. -/
theorem writes_until_score {c : Candidate} (h : c.score.isFinite = false) (t : List Char) :
    RecordUntil fields c scoreField Null (c.toJson.chars ++ t) := by
  have htext : Writes (memberText ("text", .string c.text)) (Member fields c "text") :=
    member_writes rfl (string_writes c.text)
  refine .inl ⟨["text"], ?_, by decide, ?_⟩
  · decide
  · have hbefore : List.Forall₂ (fun m p => Writes (memberText m) p) [("text", .string c.text)]
        [Member fields c "text"] := .cons htext .nil
    refine object_until hbefore ?_ _ t
    intro t
    refine ⟨_, key_writes "totalScore" _ t, t, ?_⟩
    rw [single_chars_null h]
    rfl

end Candidate

theorem AlignmentPair.writes (p : AlignmentPair) : Writes p.toJson.chars p.Spelled :=
  array_writes (.cons (index_writes p.source) (.cons (index_writes p.target) .nil))

/-! ### Outputs -/

namespace DecoderOutput

/-- The members that are written before the n-best list. -/
def before (o : DecoderOutput) : List (String × Tree) :=
  ("text", .string o.text) :: (o.source.map fun s => ("source", Tree.string s)).toList

theorem toJson_eq (o : DecoderOutput) :
    o.toJson = .object (o.before ++ ("nbest", .array (o.nbest.map Candidate.toJson)) ::
      [("alignment", .array (o.alignment.map AlignmentPair.toJson))]) := rfl

/-- Before the n-best list stands the text, and behind it a source that is present. -/
theorem before_writes {o o' : DecoderOutput} (ht : o'.text = o.text) (hs : o'.source = o.source) :
    ∃ keys, (keys = ["text"] ∧ o'.source = none ∨ keys = ["text", "source"]) ∧
      List.Forall₂ (fun m p => Writes (memberText m) p) o.before (keys.map (Member fields o')) := by
  have htext : Writes (memberText ("text", .string o.text)) (Member fields o' "text") :=
    member_writes rfl (ht ▸ string_writes o.text)
  unfold before
  cases hsource : o.source with
  | none => exact ⟨["text"], .inl ⟨rfl, hs.trans hsource⟩, .cons htext .nil⟩
  | some s =>
    have hspelled : Writes (Tree.string s).chars (Nullable Text o'.source) := by
      rw [hs, hsource]
      exact string_writes s
    exact ⟨["text", "source"], .inr rfl, .cons htext (.cons (member_writes rfl hspelled) .nil)⟩

theorem writes {o o' : DecoderOutput} (h : o.Reread o') : Writes o.toJson.chars o'.Spelled := by
  have hnbest : Writes (Tree.array (o.nbest.map Candidate.toJson)).chars
      (Enclosed .list (o'.nbest.map Candidate.Spelled)) := by
    apply array_writes
    rw [List.forall₂_map_left_iff, List.forall₂_map_right_iff]
    exact h.nbest.imp fun _ _ => Candidate.writes
  have halignment : Writes (Tree.array (o.alignment.map AlignmentPair.toJson)).chars
      (Enclosed .list (o'.alignment.map AlignmentPair.Spelled)) := by
    apply array_writes
    rw [h.alignment, List.forall₂_map_left_iff, List.forall₂_map_right_iff]
    exact List.forall₂_same.2 fun p _ => p.writes
  have hnbest : Writes (memberText ("nbest", .array (o.nbest.map Candidate.toJson)))
      (Member fields o' "nbest") := member_writes rfl hnbest
  have halignment : Writes (memberText ("alignment", .array (o.alignment.map AlignmentPair.toJson)))
      (Member fields o' "alignment") := member_writes rfl halignment
  obtain ⟨keys, hkeys, hbefore⟩ := before_writes h.text h.source
  have hmembers := List.rel_append hbefore (.cons hnbest (.cons halignment .nil))
  intro t
  refine .inl ⟨keys ++ ["nbest", "alignment"], ?_, ?_, ?_⟩
  · obtain ⟨rfl, -⟩ | rfl := hkeys <;> decide
  · obtain ⟨rfl, hnone⟩ | rfl := hkeys
    · simpa [fields, nbestField] using hnone
    · simp [fields, nbestField]
  · rw [List.map_append, toJson_eq]
    exact object_writes hmembers t

/-- What is written for an output, up to a candidate whose score is not finite. -/
theorem writes_until_score {o : DecoderOutput} {finite rest : List Candidate} {c : Candidate}
    {cs : List Candidate} (hn : o.nbest = finite ++ c :: rest)
    (hcs : List.Forall₂ Candidate.Reread finite cs) (hc : c.score.isFinite = false)
    (t : List Char) :
    RecordUntil fields o nbestField
      (EnclosedUntil .list (cs.map Candidate.Spelled)
        (RecordUntil Candidate.fields c Candidate.scoreField Null)) (o.toJson.chars ++ t) := by
  have hfinite : List.Forall₂ (fun i p => Writes i.chars p) (finite.map Candidate.toJson)
      (cs.map Candidate.Spelled) := by
    rw [List.forall₂_map_left_iff, List.forall₂_map_right_iff]
    exact hcs.imp fun _ _ => Candidate.writes
  obtain ⟨keys, hkeys, hbefore⟩ := before_writes (o := o) rfl rfl
  refine .inl ⟨keys, ?_, ?_, ?_⟩
  · obtain ⟨rfl, -⟩ | rfl := hkeys <;> decide
  · obtain ⟨rfl, -⟩ | rfl := hkeys <;> decide
  · rw [toJson_eq]
    apply object_until hbefore
    intro t
    refine ⟨_, key_writes "nbest" _ t, ?_⟩
    rw [hn, List.map_append, List.map_cons]
    exact array_until hfinite (Candidate.writes_until_score hc) _ t

/-- An output that is written is read again exactly if all its scores are finite. What is read then
is the output with every score as its printed number is read; otherwise the first score that is not
finite is refused. -/
theorem whole_of_render (o : DecoderOutput) :
    match reader.whole o.toJson.render with
    | .ok o' => (∀ c ∈ o.nbest, c.score.isFinite = true) ∧ o.Reread o'
    | .error e => (∃ c ∈ o.nbest, c.score.isFinite = false) ∧ e.cause = .wrongType .null "f32" := by
  have hrender : o.toJson.render.toList = o.toJson.chars ++ [] := by
    rw [Tree.render, String.toList_ofList, List.append_nil]
  -- Reading stops at the first score that is not finite, so the candidates before it matter.
  cases hfind : o.nbest.find? (fun c => !c.score.isFinite) with
  | none =>
    have hfinite : ∀ c ∈ o.nbest, c.score.isFinite = true := by
      simpa using List.find?_eq_none.1 hfind
    obtain ⟨cs, hcs⟩ := Candidate.exists_reread hfinite
    have hreread : o.Reread { o with nbest := cs } := ⟨rfl, rfl, hcs, rfl⟩
    have hdocument : Document (Spelled { o with nbest := cs }) o.toJson.render :=
      ⟨_, [], .none _, hrender ▸ writes hreread [], .none _⟩
    rw [(reader_reads _).whole hdocument]
    exact ⟨hfinite, hreread⟩
  | some c =>
    obtain ⟨hc, finite, rest, hn, hfinite⟩ := List.find?_eq_some_iff_append.1 hfind
    have hc : c.score.isFinite = false := by simpa using hc
    have hfinite : ∀ c ∈ finite, c.score.isFinite = true := by simpa using hfinite
    obtain ⟨cs, hcs⟩ := Candidate.exists_reread hfinite
    have hfails := nbest_fails o cs (c.score_fails null_fails)
    obtain ⟨e, he, hwhy⟩ := hfails.whole ⟨_, .none _, hrender ▸ writes_until_score hn hcs hc []⟩
    rw [he]
    exact ⟨⟨c, by rw [hn]; simp, hc⟩, hwhy⟩

end DecoderOutput

end DecoderExport
