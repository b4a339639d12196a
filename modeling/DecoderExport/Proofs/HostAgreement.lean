import DecoderExport.Proofs.DefaultClasses
import DecoderExport.Proofs.ScriptHost
import DecoderExport.Proofs.Session
import DecoderExport.Proofs.Widening

/-!
# Scripts see what an object model holds

An exporter of scripts with the classes of its own module and an exporter on object models with the
default classes are given the same output. Either both refuse the same index in the same words, or
both give a translation, and every attribute that scripts read of theirs tells what the field of the
other one holds. Scores pass through the wider format on their way, which changes nothing but the
payload of what is no number.
-/

namespace DecoderExport

open DecoderExport.Number (Single)
open DecoderExport.Scripting

/-- Candidates that differ at most in the payload of a score that is no number. -/
structure Candidate.Matches (c d : Candidate) : Prop where
  text : c.text = d.text
  score : c.score.Matches d.score
  features : c.features = d.features

theorem Candidate.matches_widened (c : Candidate) : c.Matches c.widened :=
  ⟨rfl, c.score.matches_widened, rfl⟩

/-- Outputs that differ at most in the payloads of scores that are no numbers. -/
structure DecoderOutput.Matches (o p : DecoderOutput) : Prop where
  text : o.text = p.text
  source : o.source = p.source
  nbest : List.Forall₂ Candidate.Matches o.nbest p.nbest
  alignment : o.alignment = p.alignment

namespace Scripting

/-! ### Outputs as arguments -/

/-- Arguments of a call of the exporter that spell an output, whatever the payloads of scores that
are no numbers. -/
def Spells (args : List Datum) (named : Names) (lists : Lists) (o : DecoderOutput) : Prop :=
  ∃ m p, exportCallable.bind args named = .ok m ∧ m.decoderOutput lists = .ok p ∧ o.Matches p

/-- A candidate as scripts write it down. -/
def Datum.ofCandidate (c : Candidate) : Datum :=
  .tuple 0 [.constant c.text, .ofSingle 0 c.score, .constant c.features]

/-- An output as scripts write it down. -/
def argumentsOf (o : DecoderOutput) : List Datum :=
  [.constant o.text, .tuple 0 (o.nbest.map .ofCandidate), .tuple 0 (o.alignment.map (.ofPair 0)),
    .ofText? 0 o.source]

theorem readCandidate_ofCandidate (c : Candidate) :
    Datum.readCandidate (.ofCandidate c) = .ok c.widened := rfl

theorem readIndex_toNat (stamp : Nat) (index : UInt64) :
    Datum.readIndex (.int stamp index.toNat) = .ok index := by
  have hlt := index.toNat_lt
  show (if (index.toNat : Int) < 0 then
      throw (.overflow "can't convert negative int to unsigned")
    else if 18446744073709551616 ≤ (index.toNat : Int) then
      throw (.overflow "int too big to convert")
    else return UInt64.ofNat (index.toNat : Int).toNat : Except Raised UInt64) = .ok index
  rw [if_neg (by omega), if_neg (by omega), Int.toNat_natCast, UInt64.ofNat_toNat]
  rfl

theorem readPair_ofPair (stamp : Nat) (p : AlignmentPair) :
    Datum.readPair (.ofPair stamp p) = .ok p := by
  show (do
    let source ← Datum.readIndex (.int (stamp + 1) p.source.toNat)
    return ⟨source, ← Datum.readIndex (.int (stamp + 2) p.target.toNat)⟩ :
      Except Raised AlignmentPair) = .ok p
  rw [readIndex_toNat, readIndex_toNat]
  rfl

/-- Data that are read as the parts of an output are read as the output. -/
theorem decoderOutput_eq {lists : Lists} {text nbest alignment source : Datum} {o : DecoderOutput}
    (htext : text.readText = .ok o.text) (hnbest : nbest.readCandidates lists = .ok o.nbest)
    (halignment : alignment.readPairs lists = .ok o.alignment)
    (hsource : source.readText? = .ok o.source) :
    Matched.decoderOutput [("text", text), ("nbest", nbest), ("alignment", alignment),
      ("source", source)] lists = .ok o := by
  show (do
    let text ← blame "text" text.readText
    let nbest ← blame "nbest" (nbest.readCandidates lists)
    let alignment ← blame "alignment" (alignment.readPairs lists)
    let source ← blame "source" source.readText?
    return ⟨text, source, nbest, alignment⟩ : Except Raised DecoderOutput) = _
  rw [htext, hnbest, halignment, hsource]
  rfl

/-- There is a way to write every output down. -/
theorem spells_argumentsOf (o : DecoderOutput) (lists : Lists) :
    Spells (argumentsOf o) [] lists o := by
  have hnbest : Datum.readCandidates lists (.tuple 0 (o.nbest.map .ofCandidate)) =
      .ok (o.nbest.map Candidate.widened) :=
    mapM_map readCandidate_ofCandidate o.nbest
  have hpairs : Datum.readPairs lists (.tuple 0 (o.alignment.map (.ofPair 0))) =
      .ok (o.alignment.map id) :=
    mapM_map (readPair_ofPair 0) o.alignment
  have hsource : Datum.readText? (.ofText? 0 o.source) = .ok o.source := by
    cases o.source <;> rfl
  rw [List.map_id] at hpairs
  have htext : Datum.readText (.constant o.text) = .ok o.text := rfl
  have hread := decoderOutput_eq (o := { o with nbest := o.nbest.map Candidate.widened })
    htext hnbest hpairs hsource
  refine ⟨_, _, rfl, hread, rfl, rfl, ?_, rfl⟩
  exact List.forall₂_map_right_iff.2 (List.forall₂_same.2 fun c _ => c.matches_widened)

/-! ### Attributes -/

/-- Whenever scripts read an attribute of a datum, they get a datum with a property, which may
depend on what the lists then hold. -/
def Datum.Shows (d : Datum) (name : String) (p : Lists → Datum → Prop) : Prop :=
  ∀ s, ∃ v t, Action.getAttribute d name s = (.ok v, t) ∧ p t.lists v

/-- A text, whatever its stamp. -/
def IsText (text : String) (_ : Lists) (v : Datum) : Prop := ∃ stamp, v = .text stamp text

/-- A text that may be absent. -/
def IsText? (text : Option String) (_ : Lists) (v : Datum) : Prop :=
  ∃ stamp, v = .ofText? stamp text

/-- A 32-bit number. -/
def IsSingle (x : Single) (_ : Lists) (v : Datum) : Prop := ∃ stamp, v = .ofSingle stamp x

/-- A list of certain data. -/
def IsList (items : List Datum) (lists : Lists) (v : Datum) : Prop :=
  ∃ address, v = .list address ∧ lists.items address = items

/-- A list of 32-bit integers. -/
def IsInts (values : List Int32) (lists : Lists) (v : Datum) : Prop :=
  ∃ first, IsList (Datum.numbered Datum.ofInt32 first values) lists v

/-- A list of pairs of indices. -/
def IsPairs (pairs : List AlignmentPair) (lists : Lists) (v : Datum) : Prop :=
  ∃ first, IsList (pairs.zipIdx.map fun (p, i) => .ofPair (first + 3 * i) p) lists v

section

variable (stamp : Nat) (c : Candidate) (text : String) (hypotheses : List Datum)
  (flat : List Int32) (source : Option String)

theorem hypothesis_shows_text : (Datum.hypothesis stamp c).Shows "text" (IsText c.text) :=
  fun s => ⟨_, _, rfl, s.next, rfl⟩

theorem hypothesis_shows_score :
    (Datum.hypothesis stamp c).Shows "total_score" (IsSingle c.score) :=
  fun s => ⟨_, _, rfl, s.next, rfl⟩

theorem hypothesis_shows_features :
    (Datum.hypothesis stamp c).Shows "feature_values" (IsText c.features) :=
  fun s => ⟨_, _, rfl, s.next, rfl⟩

theorem translation_shows_text :
    (Datum.translation stamp text hypotheses flat source).Shows "text" (IsText text) :=
  fun s => ⟨_, _, rfl, s.next, rfl⟩

theorem translation_shows_hypotheses :
    (Datum.translation stamp text hypotheses flat source).Shows "hypotheses"
      (IsList hypotheses) :=
  fun s => ⟨_, _, rfl, s.next, rfl, items_head _ _ _⟩

theorem translation_shows_alignment :
    (Datum.translation stamp text hypotheses flat source).Shows "alignment" (IsInts flat) :=
  fun s => ⟨_, _, rfl, s.next, s.next + flat.length, rfl, items_head _ _ _⟩

theorem translation_shows_source :
    (Datum.translation stamp text hypotheses flat source).Shows "source" (IsText? source) :=
  fun s => ⟨_, _, rfl, s.next, rfl⟩

end

/-- Whenever scripts ask a datum for the pairs of its alignment, they get a list of certain
pairs. -/
def Datum.PairsUp (d : Datum) (pairs : List AlignmentPair) : Prop :=
  ∀ env s, ∃ v t, Action.callMethod env d "alignment_pairs" [] [] s = (.ok v, t) ∧
    IsPairs pairs t.lists v

theorem translation_pairsUp (stamp : Nat) (text : String) (hypotheses : List Datum)
    (alignment : Alignment) (source : Option String) :
    (Datum.translation stamp text hypotheses alignment.flat source).PairsUp alignment.decode := by
  intro env s
  have hcall : Action.callMethod env (.translation stamp text hypotheses alignment.flat source)
      "alignment_pairs" [] [] s =
        (do Action.pairs (← Action.ofFault (Alignment.ofFlat alignment.flat)).decode)
          { s with next := s.next + 1 } := rfl
  rw [hcall, Alignment.ofFlat_flat]
  exact ⟨_, _, rfl, s.next + 1, _, rfl, items_head _ _ _⟩

/-- What scripts do by calling one of the three methods that build something. -/
theorem callMethod_exporter {name : String} (h : name ∈ ["hypothesis", "translation", "marshal"])
    (env : Environment) (address : Nat) (args : List Datum) (named : Names) (s : Interpreter) :
    Action.callMethod env (.exporter address) name args named s =
      (Action.callOnExporter? address name args named).getD (return noAnswer)
        { s with next := s.next + 1 } := by
  rw [List.mem_cons, List.mem_cons, List.mem_singleton] at h
  rcases h with rfl | rfl | rfl <;> rfl

/-- A call of the exporter by a script whose arguments spell an output. -/
theorem callMethod_marshal (env : Environment) (address : Nat) {args : List Datum} {named : Names}
    {s : Interpreter} {m : Matched} {o : DecoderOutput}
    (hbind : exportCallable.bind args named = .ok m) (hread : m.decoderOutput s.lists = .ok o) :
    Action.callMethod env (.exporter address) "marshal" args named s =
      Action.exportOutput address o { s with next := s.next + 1 } := by
  rw [callMethod_exporter (by simp)]
  show (do
    let m ← exportCallable.bind args named
    Action.exportOutput address (← m.decoderOutput (← get).lists) : Action Datum)
      { s with next := s.next + 1 } = _
  rw [hbind]
  show (do
    Action.exportOutput address (← m.decoderOutput s.lists) : Action Datum)
      { s with next := s.next + 1 } = _
  rw [hread]
  rfl

/-- A hypothesis of scripts tells what a hypothesis of an object model holds. -/
structure HypothesesAgree (d : Datum) (v : Value) : Prop where
  classes : d.classOf = .own .hypothesis ∧ v.class? = some defaultHypothesisClass
  text : ∃ text, v.field? "text" = some (.text text) ∧ d.Shows "text" (IsText text)
  score : ∃ x y, v.field? "totalScore" = some (.float x) ∧ d.Shows "total_score" (IsSingle y) ∧
    x.Matches y
  features : ∃ text, v.field? "featureValues" = some (.text text) ∧
    d.Shows "feature_values" (IsText text)

/-- A translation of scripts tells what a translation of an object model holds. -/
structure TranslationsAgree (d : Datum) (v : Value) : Prop where
  classes : d.classOf = .own .translation ∧ v.class? = some defaultTranslationClass
  text : ∃ text, v.field? "text" = some (.text text) ∧ d.Shows "text" (IsText text)
  hypotheses : ∃ stamp elements items,
    v.field? "hypotheses" = some (.array stamp defaultHypothesisClass elements) ∧
      d.Shows "hypotheses" (IsList items) ∧ List.Forall₂ HypothesesAgree items elements
  alignment : ∃ stamp flat, v.field? "alignment" = some (.ints stamp flat) ∧
    d.Shows "alignment" (IsInts flat)
  source : ∃ source, v.field? "source" = some (source.elim .null .text) ∧
    d.Shows "source" (IsText? source)

theorem hypothesesAgree {d : Datum} {c other : Candidate} (hd : d.IsHypothesis other)
    (hc : c.Matches other) (stamp : Nat) : HypothesesAgree d (.ofCandidate stamp c) := by
  obtain ⟨_, rfl⟩ := hd
  refine ⟨⟨rfl, rfl⟩, ⟨_, rfl, ?_⟩, ⟨_, _, rfl, hypothesis_shows_score _ _, ?_⟩, ⟨_, rfl, ?_⟩⟩
  · rw [hc.text]
    exact hypothesis_shows_text _ _
  · exact hc.score.trans other.score.matches_widened
  · rw [hc.features]
    exact hypothesis_shows_features _ _

theorem forall₂_hypothesesAgree {objects : List Datum} {cs others : List Candidate}
    (hobjects : List.Forall₂ Datum.IsHypothesis objects others)
    (hcs : List.Forall₂ Candidate.Matches cs others) (stamp : Nat) :
    List.Forall₂ HypothesesAgree objects
      ((cs.zipIdx stamp).map fun (c, i) => .ofCandidate i c) := by
  induction hobjects generalizing cs stamp with
  | nil =>
    cases hcs
    exact .nil
  | cons hd _ ih =>
    obtain _ | ⟨hc, hcs⟩ := hcs
    exact .cons (hypothesesAgree hd hc stamp) (ih hcs (stamp + 1))

theorem translationsAgree (stamp other : Nat) {objects : List Datum} {o p : DecoderOutput}
    (hobjects : List.Forall₂ Datum.IsHypothesis objects p.nbest) (hop : o.Matches p)
    (source : Option String) (flat : List Int32) :
    TranslationsAgree (.translation stamp p.text objects flat source)
      (.exported other o source flat) := by
  refine ⟨⟨rfl, rfl⟩, ⟨_, rfl, ?_⟩,
    ⟨_, _, _, rfl, translation_shows_hypotheses _ _ _ _ _,
      forall₂_hypothesesAgree hobjects hop.nbest _⟩,
    ⟨_, _, rfl, translation_shows_alignment _ _ _ _ _⟩,
    ⟨_, rfl, translation_shows_source _ _ _ _ _⟩⟩
  rw [hop.text]
  exact translation_shows_text _ _ _ _ _

/-- What a script is told and what an object model replies: both that the same index is too large,
in the same words, or both a translation, of which scripts get certain pairs. -/
inductive RepliesAgree (pairs : List AlignmentPair) :
    Except Raised Datum → Except (Fault Empty) Value → Prop
  | narrowing (k : Nat) (side : Side) (n : Nat) (max : Int) :
    RepliesAgree pairs
      (.error ⟨.fault .narrowing, Fault.message (ρ := Empty) (.narrowing k side n max)⟩)
      (.error (.narrowing k side n max))
  | built {d : Datum} {v : Value} (agree : TranslationsAgree d v) (pairsUp : d.PairsUp pairs) :
    RepliesAgree pairs (.ok d) (.ok v)

/-- An exporter for the classes of its own module exports whatever it is told whose alignment can be
encoded. -/
theorem fst_exportOutput_ok {includeSource : Bool} {address : Nat} {s : Interpreter}
    (hs : s.Keeps { plainConfig with includeSource } address) {o : DecoderOutput}
    {alignment : Alignment}
    (ha : Alignment.encode (ρ := Raised) o.alignment = .ok alignment) :
    ∃ stamp objects, List.Forall₂ Datum.IsHypothesis objects o.nbest ∧
      (Action.exportOutput address o s).1 = .ok (.translation stamp o.text objects alignment.flat
        (if includeSource then o.source else none)) := by
  obtain ⟨stamp, objects, hobjects, h⟩ := hs.buildsOwn.fst_marshal ha s
  refine ⟨stamp, objects, hobjects, ?_⟩
  show ((s.exporter address).marshal o s).1.mapError Raised.ofFault = _
  rw [h]
  rfl

/-- What cannot be encoded is refused before anything is built. -/
theorem fst_exportOutput_error {o : DecoderOutput} {f : Fault Raised}
    (ha : Alignment.encode o.alignment = .error f) (address : Nat) (s : Interpreter) :
    (Action.exportOutput address o s).1 = .error (.ofFault f) := by
  show ((s.exporter address).marshal o s).1.mapError Raised.ofFault = _
  simp only [Exporter.marshal, ha]
  rfl

end Scripting

namespace Session

/-- However an exporter of scripts and one on object models have been used before, they reply alike
to every output, in whatever way scripts spell it. -/
theorem agrees_with_scripting {includeSource : Bool} {address : Nat} {s : Interpreter}
    (hs : s.Keeps { plainConfig with includeSource } address) (env : Environment) (minted : Nat)
    (history : List (Nat × DecoderOutput)) (model : Nat) (o : DecoderOutput) :
    let session := (start { includeSource } (fun _ => .withDefaultClasses) minted).run
      (history.map fun (model, o) => .marshal model o)
    Spells (argumentsOf o) [] s.lists o ∧
      ∀ args named, Spells args named s.lists o →
        RepliesAgree o.alignment
          (Action.callMethod env (.exporter address) "marshal" args named s).1
          (session.call model o).1 := by
  intro session
  refine ⟨spells_argumentsOf o s.lists, ?_⟩
  rintro args named ⟨m, p, hbind, hread, hop⟩
  have hsession : Uniform { includeSource } .withDefaultClasses session :=
    (uniform_start _ _ minted).run_marshals history
  have hkeeps : Interpreter.Keeps { plainConfig with includeSource } address
      { s with next := s.next + 1 } := .other hs rfl
  rw [callMethod_marshal env address hbind hread, hsession.fst_call]
  cases ha : (Alignment.encode p.alignment : Except (Fault Raised) Alignment) with
  | error f =>
    rw [fst_exportOutput_error ha]
    rw [← hop.alignment] at ha
    obtain ⟨k, side, n, rfl, hmodel⟩ := Alignment.encode_error_any ha Empty
    simp only [Exporter.outcome, hmodel]
    exact .narrowing k side n maxIndex
  | ok alignment =>
    obtain ⟨stamp, objects, hobjects, hfst⟩ := fst_exportOutput_ok hkeeps ha
    have hfits : ∀ q ∈ o.alignment, q.Fits := by
      rw [hop.alignment]
      exact Alignment.fits_of_encodeFrom_ok ha
    have hflat := Alignment.flat_of_encode_ok ha
    rw [hfst, Exporter.outcome_default hsession.serves rfl rfl hfits, ← hop.source,
      show o.alignment.flatMap AlignmentPair.entries = alignment.flat by
        rw [hflat, hop.alignment]]
    refine .built (translationsAgree _ _ hobjects hop _ _) ?_
    have hdecode : alignment.decode = o.alignment := by
      rw [Alignment.decode, hflat, ← hop.alignment, Alignment.pairsOf_entries hfits]
    rw [← hdecode]
    exact translation_pairsUp _ _ _ _ _

theorem agrees_with_scripting_spelled_by_name :
    let config := { plainConfig with includeSource := false }
    let s := ((Interpreter.fresh [] []).addExporter config).2
    let nan := Number.Binary.ofPattern Number.double true Number.double.quietNaN
    let named : Names := [("source", .constant "one"),
      ("nbest", .tuple 0 [.tuple 0 [.constant "eins", .float 0 nan, .constant "lm=-1"]]),
      ("alignment", .tuple 0 [.ofPair 0 ⟨0, 2147483647⟩])]
    let o : DecoderOutput := ⟨"eins", some "one",
      [⟨"eins", .ofPattern Number.single false Number.single.quietNaN, "lm=-1"⟩],
      [⟨0, 2147483647⟩]⟩
    s.Keeps config 1 ∧ Spells [.constant "eins"] named s.lists o ∧
      RepliesAgree o.alignment
        (Action.callMethod [] (.exporter 1) "marshal" [.constant "eins"] named s).1
        ((start { includeSource := false } (fun _ => .withDefaultClasses) 0).call 0 o).1 := by
  intro config s nan named o
  have hkeeps : s.Keeps config 1 := .made rfl
  have hspells : Spells [.constant "eins"] named s.lists o := by
    refine ⟨_, _, rfl, rfl, rfl, rfl, .cons ⟨rfl, .inr ⟨?_, ?_⟩, rfl⟩ .nil, rfl⟩
    · decide
    · decide
  exact ⟨hkeeps, hspells, (agrees_with_scripting hkeeps [] 0 [] 0 o).2 _ _ hspells⟩

end Session

end DecoderExport
