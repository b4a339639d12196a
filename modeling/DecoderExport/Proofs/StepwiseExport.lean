import DecoderExport.Proofs.HostAgreement

/-!
# Step by step and at once

A script can have each hypothesis built by a call of its own and then a translation around them, or
it can have the whole output exported by one call. Both ways give translations that show the same
text, the same alignment and the same hypotheses. They differ in the source: only the one call obeys
the flag of the exporter, so the two agree exactly if the exporter includes sources or there is none
to include.
-/

namespace DecoderExport

open DecoderExport.Scripting

namespace Scripting

namespace Action

/-- Has a hypothesis built of a tuple. -/
def hypothesisOf (env : Environment) (exporter d : Datum) : Action Datum := do
  callMethod env exporter "hypothesis" (← itemsOf d) []

/-- Has a hypothesis built of each tuple of a list, and then a translation around them. -/
def translateStepwise (env : Environment) (exporter text nbest alignment source : Datum) :
    Action Datum := do
  let objects ← (← itemsOf nbest).mapM (hypothesisOf env exporter)
  callMethod env exporter "translation" [text, ← list objects, alignment, source] []

/-- Has an output exported by one call. -/
def translateAtOnce (env : Environment) (exporter text nbest alignment source : Datum) :
    Action Datum :=
  callMethod env exporter "marshal" [text, nbest, alignment, source] []

theorem bind_ok {α β : Type} {x : Action α} {s : Interpreter} {a : α} (h : (x s).1 = .ok a)
    (f : α → Action β) : (x >>= f) s = f a (x s).2 := by
  show ExceptT.bindCont f (x s).1 (x s).2 = _
  rw [h]
  rfl

end Action

/-- Data that stand for the parts of an output. -/
structure SpelledBy (s : Interpreter) (text nbest alignment source : Datum) (o : DecoderOutput) :
    Prop where
  /-- A list that is used has been made before. -/
  made : ∀ address, alignment = .list address → address < s.next
  text : text.readText = .ok o.text
  nbest : nbest.readCandidates s.lists = .ok o.nbest
  alignment : alignment.readPairs s.lists = .ok o.alignment
  source : source.readText? = .ok o.source

/-- A datum of which scripts read a candidate. -/
structure Datum.TellsCandidate (d : Datum) (c : Candidate) : Prop where
  text : d.Shows "text" (IsText c.text)
  score : ∃ x, d.Shows "total_score" (IsSingle x) ∧ c.score.Matches x
  features : d.Shows "feature_values" (IsText c.features)

/-- A datum of which scripts read an output, with a certain source in place of its own. -/
structure Datum.Tells (d : Datum) (o : DecoderOutput) (source : Option String) : Prop where
  text : d.Shows "text" (IsText o.text)
  hypotheses : ∃ items, d.Shows "hypotheses" (IsList items) ∧
    List.Forall₂ Datum.TellsCandidate items o.nbest
  alignment : d.Shows "alignment" (IsInts (o.alignment.flatMap AlignmentPair.entries))
  source : d.Shows "source" (IsText? source)

theorem tellsCandidate_of_isHypothesis {d : Datum} {c : Candidate} (h : d.IsHypothesis c) :
    d.TellsCandidate c := by
  obtain ⟨stamp, rfl⟩ := h
  exact ⟨hypothesis_shows_text _ _, ⟨_, hypothesis_shows_score _ _, c.score.matches_widened⟩,
    hypothesis_shows_features _ _⟩

theorem translation_tells (stamp : Nat) {objects : List Datum} {o : DecoderOutput}
    (h : List.Forall₂ Datum.IsHypothesis objects o.nbest) {alignment : Alignment}
    (ha : Alignment.encode (ρ := Raised) o.alignment = .ok alignment) (source : Option String) :
    (Datum.translation stamp o.text objects alignment.flat source).Tells o source := by
  refine ⟨translation_shows_text _ _ _ _ _, ⟨objects, translation_shows_hypotheses _ _ _ _ _,
    h.imp fun _ _ => tellsCandidate_of_isHypothesis⟩, ?_, translation_shows_source _ _ _ _ _⟩
  rw [← Alignment.flat_of_encode_ok ha]
  exact translation_shows_alignment _ _ _ _ _

/-! ### One hypothesis after the other -/

theorem exists_of_bind_ok {α β : Type} {x : Except Raised α} {f : α → Except Raised β} {r : β}
    (h : x >>= f = .ok r) : ∃ a, x = .ok a ∧ f a = .ok r := by
  cases x with
  | error e => cases h
  | ok a => exact ⟨a, rfl, h⟩

theorem exists_of_mapM_cons {α : Type} {read : Datum → Except Raised α} {d : Datum}
    {ds : List Datum} {vs : List α} (h : (d :: ds).mapM read = .ok vs) :
    ∃ v rest, vs = v :: rest ∧ read d = .ok v ∧ ds.mapM read = .ok rest := by
  rw [List.mapM_cons] at h
  obtain ⟨v, hv, h⟩ := exists_of_bind_ok h
  obtain ⟨rest, hrest, h⟩ := exists_of_bind_ok h
  cases h
  exact ⟨v, rest, rfl, hv, hrest⟩

/-- A tuple that is read as a candidate holds what a hypothesis is made from. -/
theorem exists_parts_of_readCandidate {d : Datum} {c : Candidate}
    (h : d.readCandidate = .ok c) :
    ∃ stamp text score features, d = .tuple stamp [text, score, features] ∧
      text.readText = .ok c.text ∧ score.readSingle = .ok c.score ∧
      features.readText = .ok c.features := by
  unfold Datum.readCandidate at h
  cases d with
  | tuple stamp items =>
    by_cases hlength : items.length = 3
    · obtain ⟨text, score, features, rfl⟩ := List.length_eq_three.1 hlength
      obtain ⟨_, ⟨⟩, h⟩ := exists_of_bind_ok h
      obtain ⟨body, htext, h⟩ := exists_of_bind_ok h
      obtain ⟨x, hscore, h⟩ := exists_of_bind_ok h
      obtain ⟨rest, hfeatures, h⟩ := exists_of_bind_ok h
      cases h
      exact ⟨stamp, text, score, features, rfl, htext, hscore, hfeatures⟩
    · have htuple : Datum.readTuple 3 (.tuple stamp items) = .error _ := if_neg hlength
      rw [htuple] at h
      cases h
  | _ => cases h

/-- Whatever is read as a list of candidates can be gone through. -/
theorem itemsOf_ok {nbest : Datum} {s : Interpreter} {cs : List Candidate}
    (h : nbest.readCandidates s.lists = .ok cs) :
    ∃ items, Action.itemsOf nbest s = (.ok items, s) ∧
      items.mapM Datum.readCandidate = .ok cs := by
  cases nbest with
  | list address => exact ⟨s.lists.items address, rfl, h⟩
  | tuple stamp items => exact ⟨items, rfl, h⟩
  | _ => cases h

section

variable {includeSource : Bool} {address : Nat} {s : Interpreter}

/-- What happens in between neither changes a list nor takes an address back. -/
structure Interpreter.Extends (s t : Interpreter) : Prop where
  lists : t.lists = s.lists
  next : s.next ≤ t.next

theorem Interpreter.Extends.trans {s t u : Interpreter} (hst : s.Extends t) (htu : t.Extends u) :
    s.Extends u :=
  ⟨htu.lists.trans hst.lists, hst.next.trans htu.next⟩

theorem buildHypothesis_ok (hs : s.Keeps { plainConfig with includeSource } address)
    (c : Candidate) :
    ∃ d, (Action.buildHypothesis address c s).1 = .ok d ∧ d.IsHypothesis c ∧
      s.Extends (Action.buildHypothesis address c s).2 := by
  have hcreate := hs.buildsOwn.hypotheses.create c.args s
  rw [newObject_hypothesis] at hcreate
  change Handle.create _ [.text c.text, .float c.score, .text c.features] _ = _ at hcreate
  refine ⟨.hypothesis (s.next + 3) c.widened, ?_, ⟨_, rfl⟩, ?_⟩
  · simp only [Action.buildHypothesis, Action.runExporter, HypothesisBuilder.create, hcreate]
    rfl
  · simp only [Action.buildHypothesis, Action.runExporter, HypothesisBuilder.create, hcreate]
    exact ⟨rfl, Nat.le_add_right _ _⟩

/-- A call of its own builds the hypothesis for a candidate. -/
theorem hypothesis_ok (hs : s.Keeps { plainConfig with includeSource } address)
    (env : Environment) {d : Datum} {c : Candidate} (h : d.readCandidate = .ok c) :
    let x := Action.hypothesisOf env (.exporter address) d
    ∃ d, (x s).1 = .ok d ∧ d.IsHypothesis c ∧ s.Extends (x s).2 ∧
      (x s).2.Keeps { plainConfig with includeSource } address := by
  obtain ⟨stamp, text, score, features, rfl, htext, hscore, hfeatures⟩ :=
    exists_parts_of_readCandidate h
  intro x
  have hcandidate : Matched.candidate [("text", text), ("total_score", score),
      ("feature_values", features)] = .ok c := by
    show (do
      let text ← blame "text" text.readText
      let score ← blame "total_score" score.readSingle
      return ⟨text, score, ← blame "feature_values" features.readText⟩ :
        Except Raised Candidate) = .ok c
    rw [htext, hscore, hfeatures]
    rfl
  have hx : x s = Action.buildHypothesis address c { s with next := s.next + 1 } := by
    show Action.callMethod env (.exporter address) "hypothesis" [text, score, features] [] s = _
    rw [callMethod_exporter (by simp)]
    show (do
      Action.buildHypothesis address (← Matched.candidate [("text", text),
        ("total_score", score), ("feature_values", features)]) : Action Datum) _ = _
    rw [hcandidate]
    rfl
  have hkeeps : Interpreter.Keeps { plainConfig with includeSource } address
      { s with next := s.next + 1 } := .other hs rfl
  obtain ⟨e, he, hc, hlists, hnext⟩ := buildHypothesis_ok hkeeps c
  rw [hx]
  exact ⟨e, he, hc, ⟨hlists, (Nat.le_succ _).trans hnext⟩, .hypothesis hkeeps c⟩

/-- So do as many calls for as many candidates. -/
theorem hypotheses_ok (hs : s.Keeps { plainConfig with includeSource } address)
    (env : Environment) {items : List Datum} {cs : List Candidate}
    (h : items.mapM Datum.readCandidate = .ok cs) :
    let x := items.mapM (Action.hypothesisOf env (.exporter address))
    ∃ objects, (x s).1 = .ok objects ∧ List.Forall₂ Datum.IsHypothesis objects cs ∧
      s.Extends (x s).2 ∧ (x s).2.Keeps { plainConfig with includeSource } address := by
  induction items generalizing s cs with
  | nil =>
    cases h
    exact ⟨[], rfl, .nil, ⟨rfl, le_rfl⟩, hs⟩
  | cons d items ih =>
    obtain ⟨c, cs, rfl, hd, hitems⟩ := exists_of_mapM_cons h
    obtain ⟨object, hobject, hc, hextends, hkeeps⟩ := hypothesis_ok hs env hd
    obtain ⟨objects, hobjects, hcs, hrest, hkept⟩ := ih hkeeps hitems
    intro x
    have hx : x s = (.ok (object :: objects),
        (items.mapM (Action.hypothesisOf env (.exporter address))
          (Action.hypothesisOf env (.exporter address) d s).2).2) := by
      show ((d :: items).mapM (Action.hypothesisOf env (.exporter address)) :
        Action (List Datum)) s = _
      rw [List.mapM_cons, Action.bind_ok hobject, Action.bind_ok hobjects]
      rfl
    rw [hx]
    exact ⟨_, rfl, .cons hc hcs, hextends.trans hrest, hkept⟩

/-! ### The translation around them -/

/-- Arguments of a call that spell the parts of a translation. -/
def SpellsParts (args : List Datum) (named : Names) (lists : Lists)
    (p : TranslationParts AlignmentPair) : Prop :=
  ∃ m, translationCallable.bind args named = .ok m ∧
    m.translationParts lists Datum.readPairs = .ok p

/-- Data that are read as the parts of a translation spell them. -/
theorem spellsParts_of_read {lists : Lists} {text nbest alignment source : Datum}
    {p : TranslationParts AlignmentPair} (htext : text.readText = .ok p.text)
    (hnbest : nbest.readItems lists = .ok p.hypotheses)
    (halignment : alignment.readPairs lists = .ok p.alignment)
    (hsource : source.readText? = .ok p.source) :
    SpellsParts [text, nbest, alignment, source] [] lists p := by
  obtain ⟨n, rfl⟩ : ∃ n, text = .text n p.text := by
    cases text with
    | text n body =>
      cases htext
      exact ⟨n, rfl⟩
    | _ => cases htext
  refine ⟨_, rfl, translationParts_eq ⟨⟨n, rfl⟩, ⟨nbest, rfl, hnbest⟩,
    ⟨alignment, rfl, halignment⟩, ?_⟩⟩
  show blame "source" source.readText? = _
  rw [hsource]
  rfl

/-- A call of the exporter by a script whose arguments spell the parts of a translation. -/
theorem callMethod_translation (env : Environment) (address : Nat) {args : List Datum}
    {named : Names} {p : TranslationParts AlignmentPair} (h : SpellsParts args named s.lists p) :
    Action.callMethod env (.exporter address) "translation" args named s =
      Action.buildTranslation address p { s with next := s.next + 1 } := by
  obtain ⟨m, hbind, hread⟩ := h
  rw [callMethod_exporter (by simp)]
  show (do
    let m ← translationCallable.bind args named
    Action.buildTranslation address (← m.translationParts (← get).lists Datum.readPairs) :
      Action Datum) { s with next := s.next + 1 } = _
  rw [hbind]
  show (do
    Action.buildTranslation address (← m.translationParts s.lists Datum.readPairs) :
      Action Datum) { s with next := s.next + 1 } = _
  rw [hread]
  rfl

/-- A call whose arguments spell a text, hypotheses, an alignment that fits and maybe a source
builds the translation, always with the source. -/
theorem translation_ok (hs : s.Keeps { plainConfig with includeSource } address)
    (env : Environment) {args : List Datum} {named : Names} {p : TranslationParts AlignmentPair}
    (hspells : SpellsParts args named s.lists p)
    (hclasses : ∀ d ∈ p.hypotheses, d.classOf = .own .hypothesis) {encoded : Alignment}
    (ha : Alignment.encode (ρ := Raised) p.alignment = .ok encoded) :
    ∃ stamp, (Action.callMethod env (.exporter address) "translation" args named s).1 =
      .ok (.translation stamp p.text p.hypotheses encoded.flat p.source) := by
  have hkeeps : Interpreter.Keeps { plainConfig with includeSource } address
      { s with next := s.next + 1 } := .other hs rfl
  obtain ⟨stamp, hfinish⟩ := hkeeps.buildsOwn.fst_finish p.text hclasses encoded p.source
    { s with next := s.next + 1 }
  refine ⟨stamp, ?_⟩
  rw [callMethod_translation env address hspells, buildTranslation_eq, ha]
  show (Exporter.finish _ _ _ _ _ _).1.mapError _ = _
  rw [hfinish]
  rfl

/-- Step by step, every output whose indices fit becomes a translation with its source. -/
theorem fst_translateStepwise (hs : s.Keeps { plainConfig with includeSource } address)
    (env : Environment) {text nbest alignment source : Datum} {o : DecoderOutput}
    (ho : SpelledBy s text nbest alignment source o) {encoded : Alignment}
    (ha : Alignment.encode (ρ := Raised) o.alignment = .ok encoded) :
    ∃ stamp objects, List.Forall₂ Datum.IsHypothesis objects o.nbest ∧
      (Action.translateStepwise env (.exporter address) text nbest alignment source s).1 =
        .ok (.translation stamp o.text objects encoded.flat o.source) := by
  obtain ⟨items, hitems, hread⟩ := itemsOf_ok ho.nbest
  obtain ⟨objects, hobjects, hcs, hextends, hkeeps⟩ := hypotheses_ok hs env hread
  generalize ht : (items.mapM (Action.hypothesisOf env (.exporter address)) s).2 = t
    at hextends hkeeps
  have hlists : (t.addList objects).2.lists = (t.next, objects) :: s.lists :=
    congrArg ((t.next, objects) :: ·) hextends.lists
  have hpairs : alignment.readPairs (t.addList objects).2.lists = .ok o.alignment := by
    rw [hlists, ← ho.alignment]
    cases alignment with
    | list a =>
      have hne : a ≠ t.next := (Nat.lt_of_lt_of_le (ho.made a rfl) hextends.next).ne
      simp only [Datum.readPairs, Datum.readItems, items_of_ne hne]
    | _ => rfl
  have hlist : Datum.readItems (t.addList objects).2.lists (.list t.next) = .ok objects :=
    congrArg Except.ok (items_head _ _ _)
  have hspells : SpellsParts [text, .list t.next, alignment, source] []
      (t.addList objects).2.lists ⟨o.text, objects, o.alignment, o.source⟩ :=
    spellsParts_of_read ho.text hlist hpairs ho.source
  have hkept : (t.addList objects).2.Keeps { plainConfig with includeSource } address :=
    .other hkeeps rfl
  obtain ⟨stamp, hfst⟩ := translation_ok hkept env hspells (classOf_of_isHypothesis hcs) ha
  refine ⟨stamp, objects, hcs, ?_⟩
  have hsteps : Action.translateStepwise env (.exporter address) text nbest alignment source s =
      Action.callMethod env (.exporter address) "translation"
        [text, .list t.next, alignment, source] [] (t.addList objects).2 := by
    rw [Action.translateStepwise, Action.bind_ok (congrArg Prod.fst hitems), hitems,
      Action.bind_ok hobjects, ht]
    rfl
  rw [hsteps, hfst]

/-- At once, it becomes a translation with its source if the exporter includes sources. -/
theorem fst_translateAtOnce (hs : s.Keeps { plainConfig with includeSource } address)
    (env : Environment) {text nbest alignment source : Datum} {o : DecoderOutput}
    (ho : SpelledBy s text nbest alignment source o) {encoded : Alignment}
    (ha : Alignment.encode (ρ := Raised) o.alignment = .ok encoded) :
    ∃ stamp objects, List.Forall₂ Datum.IsHypothesis objects o.nbest ∧
      (Action.translateAtOnce env (.exporter address) text nbest alignment source s).1 =
        .ok (.translation stamp o.text objects encoded.flat
          (if includeSource then o.source else none)) := by
  have hkeeps : Interpreter.Keeps { plainConfig with includeSource } address
      { s with next := s.next + 1 } := .other hs rfl
  have hread := decoderOutput_eq ho.text ho.nbest ho.alignment ho.source
  rw [Action.translateAtOnce, callMethod_marshal env address rfl hread]
  exact fst_exportOutput_ok hkeeps ha

end

/-- A datum shows one source only. -/
theorem source_unique {d : Datum} {a b : Option String} (ha : d.Shows "source" (IsText? a))
    (hb : d.Shows "source" (IsText? b)) : a = b := by
  obtain ⟨v, t, hv, i, rfl⟩ := ha (Interpreter.fresh [] [])
  obtain ⟨w, u, hw, j, hj⟩ := hb (Interpreter.fresh [] [])
  rw [hv, Prod.mk.injEq, Except.ok.injEq] at hw
  rw [← hw.1] at hj
  cases a <;> cases b <;> cases hj <;> rfl

theorem exists_source_iff {d e : Datum} {a b : Option String}
    (hd : d.Shows "source" (IsText? a)) (he : e.Shows "source" (IsText? b)) :
    (∃ source, d.Shows "source" (IsText? source) ∧ e.Shows "source" (IsText? source)) ↔ a = b := by
  constructor
  · rintro ⟨source, hds, hes⟩
    rw [source_unique hd hds, source_unique he hes]
  · rintro rfl
    exact ⟨a, hd, he⟩

/-- Given the same data, in whatever state an exporter is, both ways build a translation for every
output whose indices fit. The one that is built step by step always shows the source, the other one
if the exporter includes sources; of everything else the two show the same. -/
theorem stepwise_agrees_but_source {includeSource : Bool} {address : Nat} {s t : Interpreter}
    (hs : s.Keeps { plainConfig with includeSource } address)
    (ht : t.Keeps { plainConfig with includeSource } address) (env : Environment)
    {text nbest alignment source : Datum} {o : DecoderOutput}
    (hso : SpelledBy s text nbest alignment source o)
    (hto : SpelledBy t text nbest alignment source o) (hfits : ∀ p ∈ o.alignment, p.Fits) :
    ∃ d e, (Action.translateStepwise env (.exporter address) text nbest alignment source s).1 =
        .ok d ∧
      (Action.translateAtOnce env (.exporter address) text nbest alignment source t).1 = .ok e ∧
      d.Tells o o.source ∧ e.Tells o (if includeSource then o.source else none) ∧
      ((∃ source, d.Shows "source" (IsText? source) ∧ e.Shows "source" (IsText? source)) ↔
        includeSource = true ∨ o.source = none) := by
  obtain ⟨encoded, ha, -⟩ := Alignment.encode_ok (ρ := Raised) hfits
  obtain ⟨stamp, objects, hobjects, hstep⟩ := fst_translateStepwise hs env hso ha
  obtain ⟨other, others, hothers, honce⟩ := fst_translateAtOnce ht env hto ha
  have hd := translation_tells stamp hobjects ha o.source
  have he := translation_tells other hothers ha (if includeSource then o.source else none)
  refine ⟨_, _, hstep, honce, hd, he, ?_⟩
  rw [exists_source_iff hd.source he.source]
  cases includeSource
  · simp only [Bool.false_eq_true, if_false, false_or]
  · simp only [if_true, true_or]

theorem stepwise_agrees_but_source_of_list :
    let config := { plainConfig with includeSource := false }
    let s := (((Interpreter.fresh [] []).addExporter config).2.addList [.ofPair 0 ⟨2, 7⟩]).2
    let nan := Number.Binary.ofPattern Number.double true Number.double.quietNaN
    let nbest : Datum := .tuple 0 [.tuple 0 [.constant "eins", .float 0 nan, .constant ""]]
    let o : DecoderOutput :=
      ⟨"eins", some "one", [⟨"eins", nan.convert Number.single, ""⟩], [⟨2, 7⟩]⟩
    s.Keeps config 1 ∧ SpelledBy s (.constant "eins") nbest (.list 2) (.constant "one") o ∧
      (∀ p ∈ o.alignment, p.Fits) ∧
      ∃ d e, (Action.translateStepwise [] (.exporter 1) (.constant "eins") nbest (.list 2)
          (.constant "one") s).1 = .ok d ∧
        (Action.translateAtOnce [] (.exporter 1) (.constant "eins") nbest (.list 2)
          (.constant "one") s).1 = .ok e ∧
        d.Tells o (some "one") ∧ e.Tells o none := by
  intro config s nan nbest o
  have hkeeps : s.Keeps config 1 := .made rfl
  have hspelled : SpelledBy s (.constant "eins") nbest (.list 2) (.constant "one") o := by
    refine ⟨?_, rfl, rfl, rfl, rfl⟩
    rintro a h
    cases h
    decide
  have hfits : ∀ p ∈ o.alignment, p.Fits :=
    List.forall_mem_singleton.2 ⟨by decide, by decide⟩
  obtain ⟨d, e, hd, he, hdo, heo, -⟩ :=
    stepwise_agrees_but_source hkeeps hkeeps [] hspelled hspelled hfits
  exact ⟨hkeeps, hspelled, hfits, d, e, hd, he, hdo, heo⟩

/-- Where sources are not included, only the translation that is built step by step shows the one
that it has been given. -/
theorem stepwise_keeps_excluded_source :
    let s := ((Interpreter.fresh [] []).addExporter { plainConfig with includeSource := false }).2
    ∃ d e, (Action.translateStepwise [] (.exporter 1) (.constant "eins") (.tuple 0 [])
        (.tuple 0 []) (.constant "one") s).1 = .ok d ∧
      (Action.translateAtOnce [] (.exporter 1) (.constant "eins") (.tuple 0 [])
        (.tuple 0 []) (.constant "one") s).1 = .ok e ∧
      d.Shows "source" (IsText? (some "one")) ∧ e.Shows "source" (IsText? none) ∧
      ¬ ∃ source, d.Shows "source" (IsText? source) ∧ e.Shows "source" (IsText? source) := by
  intro s
  have hkeeps : s.Keeps { plainConfig with includeSource := false } 1 := .made rfl
  have hspelled : SpelledBy s (.constant "eins") (.tuple 0 []) (.tuple 0 []) (.constant "one")
      ⟨"eins", some "one", [], []⟩ := ⟨nofun, rfl, rfl, rfl, rfl⟩
  obtain ⟨encoded, ha, -⟩ := Alignment.encode_ok (ρ := Raised) (List.forall_mem_nil _)
  obtain ⟨stamp, objects, -, hstep⟩ := fst_translateStepwise hkeeps [] hspelled ha
  obtain ⟨other, others, -, honce⟩ := fst_translateAtOnce hkeeps [] hspelled ha
  have hd := translation_shows_source stamp "eins" objects encoded.flat (some "one")
  have he := translation_shows_source other "eins" others encoded.flat none
  refine ⟨_, _, hstep, honce, hd, he, ?_⟩
  intro h
  cases (exists_source_iff hd he).1 h

end Scripting

end DecoderExport
