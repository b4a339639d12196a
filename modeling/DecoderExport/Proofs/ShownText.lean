import DecoderExport.Proofs.FloatText
import DecoderExport.Proofs.Handover
import DecoderExport.Proofs.IndexRange

/-!
# What the text of an export shows

The text that an export hands over, as any reader of JSON sees it: members with their keys, strings
with their escapes, indices in digits, and every score as a number that is rounded to it. Nothing
here mentions how the text is made. The members are told in the order in which they stand.
-/

namespace DecoderExport

open DecoderExport.Json
open DecoderExport.Number (Decimal Single single)

/-- What is shown of a score. -/
inductive ShownScore (x : Single) : Spelling
  /-- A number of as few digits as any that is rounded to the score. -/
  | finite {l : Literal} {d : Decimal} {t : List Char} (hx : x.isFinite = true)
      (hsign : l.negative = x.negative) (hvalue : l.magnitude = d.value)
      (hshort : d.IsShortest single x.pattern) : ShownScore x (l.chars ++ t) t
  | nan {s t : List Char} (hx : x.isNaN = true) (h : Text "NaN" s t) : ShownScore x s t
  | infinite {s t : List Char} (hx : x.isInfinite = true)
      (h : Text (if x.negative then "-Infinity" else "Infinity") s t) : ShownScore x s t

/-- A member with a key and a value that is spelled as given. -/
def Entry (key : String) (p : Spelling) : Spelling := fun s t => ∃ u, Key key s u ∧ p u t

/-- What is shown of a candidate. -/
def Candidate.Shown (c : Candidate) : Spelling :=
  Enclosed .object [Entry "featureValues" (Text c.features), Entry "text" (Text c.text),
    Entry "totalScore" (ShownScore c.score)]

namespace DecoderOutput

/-- What is shown of an output whose alignment is written in the given indices. -/
def ShownWith (o : DecoderOutput) (includeSource : Bool) (indices : List Spelling) : Spelling :=
  Enclosed .object [
    Entry "alignment" (Enclosed .list indices),
    Entry "hypotheses" (Enclosed .list (o.nbest.map Candidate.Shown)),
    Entry "source" (Nullable Text (if includeSource then o.source else none)),
    Entry "text" (Text o.text)]

/-- What is shown of an output. -/
def Shown (o : DecoderOutput) (includeSource : Bool) : Spelling :=
  o.ShownWith includeSource (o.alignment.flatMap fun p => [Index p.source, Index p.target])

end DecoderOutput

/-! ### The text of a translation -/

theorem entry_writes {key : String} {tree : Tree} {p : Spelling} (h : Writes tree.chars p) :
    Writes (memberText (key, tree)) (Entry key p) :=
  fun t => ⟨_, key_writes key tree t, h t⟩

/-- A score is written as what is shown of it. -/
theorem score_writes (x : Single) : Writes (Value.floatJson x).chars (ShownScore x) := by
  intro t
  cases hx : x.isFinite with
  | true =>
    obtain ⟨l, hl, hsign, hvalue⟩ := Value.float_denotes hx
    have hchars : (Value.floatJson x).chars = l.chars := by
      rw [← hl, Value.toJson, Tree.render, String.toList_ofList]
    rw [hchars]
    exact .finite hx hsign hvalue (Decimal.shown_isShortest .away (of_decide_eq_true hx))
  | false =>
    have hle : single.infinity ≤ x.pattern := Nat.not_lt.1 (of_decide_eq_false hx)
    unfold Value.floatJson
    obtain hinf | hnan := hle.eq_or_lt
    · have hnan : x.isNaN = false := decide_eq_false hinf.not_lt
      have hinf : x.isInfinite = true := decide_eq_true hinf.symm
      rw [if_neg (by rw [hnan]; decide), if_pos hinf]
      exact .infinite hinf (string_writes _ t)
    · have hnan : x.isNaN = true := decide_eq_true hnan
      rw [if_pos hnan]
      exact .nan hnan (string_writes _ t)

theorem Candidate.exported_writes (c : Candidate) : Writes c.exported.chars c.Shown :=
  object_writes (.cons (entry_writes (string_writes c.features))
    (.cons (entry_writes (string_writes c.text))
      (.cons (entry_writes (score_writes c.score)) .nil)))

namespace DecoderOutput

theorem indices_write (ps : List AlignmentPair) :
    List.Forall₂ (fun (i : Tree) p => Writes i.chars p)
      (ps.flatMap fun p => [.int p.source.toNat, .int p.target.toNat])
      (ps.flatMap fun p => [Index p.source, Index p.target]) := by
  induction ps with
  | nil => exact .nil
  | cons p ps ih => exact .cons (index_writes p.source) (.cons (index_writes p.target) ih)

theorem source_writes (source : Option String) :
    Writes (source.elim Tree.null .string).chars (Nullable Text source) := by
  cases source with
  | none =>
    intro t
    rw [Option.elim_none, Tree.chars]
    rfl
  | some s => exact string_writes s

/-- The JSON form of a translation is written as what is shown of the output. -/
theorem exported_writes (o : DecoderOutput) (includeSource : Bool) :
    Writes (o.exported includeSource).chars (o.Shown includeSource) := by
  have hsource : (if includeSource then o.source.elim Tree.null .string else .null) =
      (if includeSource then o.source else none).elim .null .string := by
    cases includeSource <;> rfl
  rw [exported, hsource]
  refine object_writes (.cons (entry_writes ?_) (.cons (entry_writes ?_)
    (.cons (entry_writes ?_) (.cons (entry_writes ?_) .nil))))
  · exact array_writes (indices_write o.alignment)
  · apply array_writes
    rw [List.forall₂_map_left_iff, List.forall₂_map_right_iff]
    exact List.forall₂_same.2 fun c _ => c.exported_writes
  · exact source_writes _
  · exact string_writes o.text

/-- The whole text of a translation shows the output. -/
theorem exported_shows (o : DecoderOutput) (includeSource : Bool) :
    Document (o.Shown includeSource) (o.exported includeSource).render := by
  refine ⟨_, [], .none _, ?_, .none _⟩
  rw [Tree.render, String.toList_ofList, ← List.append_nil (Tree.chars _)]
  exact o.exported_writes includeSource []

example : Document (Shown ⟨"a", some "b", [], [⟨0, 1⟩]⟩ false)
    "\x7b\"alignment\":[0,1],\"hypotheses\":[],\"source\":null,\"text\":\"a\"\x7d" :=
  exported_shows _ _

/-- Plain literals stand in the text of the export as they were written. -/
theorem shown_withAlignment (o : DecoderOutput) (includeSource : Bool) {ls : List LiteralPair}
    (h : ∀ p ∈ ls, p.Plain) :
    (o.withAlignment ls).Shown includeSource =
      o.ShownWith includeSource (ls.flatMap fun p => [p.source.Written, p.target.Written]) := by
  have hindices : ((ls.map LiteralPair.pair).flatMap fun p => [Index p.source, Index p.target]) =
      ls.flatMap fun p => [p.source.Written, p.target.Written] := by
    rw [List.flatMap_map]
    exact List.flatMap_congr fun p hp => by
      rw [(h p hp).1.written_eq, (h p hp).2.written_eq]
      rfl
  rw [Shown, withAlignment, hindices]
  rfl

end DecoderOutput

/-! ### What is handed over -/

namespace Boundary.Library

variable (lib : Library)

/-- What has been exported is handed over whole, and shows the output. -/
theorem deliver_shows (o : DecoderOutput) (includeSource : Bool) :
    ∃ out text, (lib.deliver (.ok (o.exported includeSource).render)).1 =
        .output .success (some (some out)) ∧
      out.ReadsAs text ∧ Document (o.Shown includeSource) text := by
  obtain ⟨out, hout, hbytes⟩ := lib.deliver_render (o.exported includeSource)
  exact ⟨out, _, congrArg Prod.fst hout, CString.readsAs_iff.2 hbytes,
    o.exported_shows includeSource⟩

/-- A request whose verdict is success hands over a text that shows the output that was spelled. -/
theorem exportOnce_shows {r : Request} (h : r.verdict = .success) :
    ∃ o out text, r.output? = some o ∧
      (lib.step r.env (.exportOnce r.input r.config r.hasPlace)).1 =
        .output .success (some (some out)) ∧
      out.ReadsAs text ∧ Document (o.Shown r.effective.includeSource) text := by
  obtain ⟨hne, -⟩ | ⟨-, _, hmade, o, ho, rfl⟩ := r.exportOnce_verdict
  · exact absurd h hne
  · obtain ⟨out, text, hout, hreads, hshown⟩ := lib.deliver_shows o r.effective.includeSource
    refine ⟨o, out, text, ho, ?_, hreads, hshown⟩
    rw [step, hmade, hout]

/-- Plain literals that fit come back in the text that is handed over, digit by digit. -/
theorem exportOnce_shows_literals {env : Environment} {config : Argument} {includeSource : Bool}
    {input : CString} {text : String} {o : DecoderOutput} {ls : List LiteralPair}
    (hconfig : loadConfig env config = .ok { includeSource })
    (htext : input.text = .ok text) (hdoc : Document (o.SpelledWith ls) text)
    (h : ∀ p ∈ ls, p.Plain ∧ p.Fits) :
    ∃ out shown, (lib.step env (.exportOnce (some input) config true)).1 =
        .output .success (some (some out)) ∧
      out.ReadsAs shown ∧
      Document (o.ShownWith includeSource
        (ls.flatMap fun p => [p.source.Written, p.target.Written])) shown := by
  rw [lib.step_exportOnce hconfig htext, exportJson_of_literals includeSource h hdoc,
    ← o.shown_withAlignment includeSource fun p hp => (h p hp).1]
  exact lib.deliver_shows _ includeSource

end Boundary.Library

end DecoderExport
