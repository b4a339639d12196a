import DecoderExport.Proofs.Asking
import DecoderExport.Proofs.Grounds

/-!
# Where a call stops

A call may stop at five stages: the alignment, the lookup of the hypotheses, the candidates, the
lookup of the translation and the translation itself. `Exporter.FailsAt` says of each stage for
itself when it fails and with which fault. A call fails with the fault of the first stage that
fails, and only then; what it leaves as it was follows from the stage (`Exporter.Frame`).
-/

namespace DecoderExport

inductive Stage where
  | alignment
  | hypothesisLookup
  | candidates
  | translationLookup
  | translation
  deriving DecidableEq

/-- The place of a stage in the order. -/
def Stage.rank : Stage → Nat
  | alignment => 0
  | hypothesisLookup => 1
  | candidates => 2
  | translationLookup => 3
  | translation => 4

theorem Stage.rank_injective {s t : Stage} (h : s.rank = t.rank) : s = t := by
  cases s <;> cases t <;> first | rfl | cases h

theorem Stage.rank_lt (s : Stage) : s.rank < Stage.translation.rank + 1 := by
  cases s <;> decide

/-- The source that a configuration lets into the result. -/
def Config.sourceOf (config : Config) (o : DecoderOutput) : Option String :=
  if config.includeSource then o.source else none

/-- A stage of a call fails with a fault. Each stage is taken for itself. -/
inductive Exporter.FailsAt (config : Config) (e : Exporter ClassDef Constructor)
    (o : DecoderOutput) (m : ObjectModel) (stamp : Nat) : Stage → Fault Empty → Prop where
  -- An index does not fit, and it is the first in reading order.
  | alignment {k : Nat} {p : AlignmentPair} {side : Side} (hk : o.alignment[k]? = some p)
      (hlarge : maxIndex < (p.index side).toNat)
      (hside : side = .target → p.source.toNat ≤ maxIndex)
      (hfirst : ∀ j < k, ∀ q, o.alignment[j]? = some q → q.Fits) :
      FailsAt config e o m stamp .alignment (.narrowing k side (p.index side).toNat maxIndex)
  -- The class or the constructor of hypotheses is neither known nor found.
  | hypothesisLookup {f : Fault Empty} (hr : e.hypotheses.handle.resolved = none)
      (hf : m.Lacks config.hypothesisClass .hypothesis f) :
      FailsAt config e o m stamp .hypothesisLookup f
  -- A candidate is rejected, and it is the first in rank order.
  | candidates {cls : ClassDef} {c : Constructor} {k : Nat} {d : Candidate} {message : String}
      (hc : e.hypotheses.handle.Gets m config.hypothesisClass .hypothesis cls c)
      (hk : o.nbest[k]? = some d) (hd : c.Rejects d.values message)
      (hfirst : ∀ j < k, ∀ b, o.nbest[j]? = some b → ∀ message, ¬ c.Rejects b.values message) :
      FailsAt config e o m stamp .candidates (.construction cls.name (.refused message))
  -- The class or the constructor that serves the translation is neither known nor found.
  | translationLookup {f : Fault Empty}
      (hr : (e.translations.selected (config.sourceOf o)).resolved = none)
      (hf : m.Lacks config.translationClass
        (.translation config.hypothesisClass (config.sourceOf o)) f) :
      FailsAt config e o m stamp .translationLookup f
  -- The translation around the hypotheses is rejected.
  | translation {hypothesis cls : ClassDef} {k c : Constructor} {message : String}
      (hk : e.hypotheses.handle.Gets m config.hypothesisClass .hypothesis hypothesis k)
      (hc : (e.translations.selected (config.sourceOf o)).Gets m config.translationClass
        (.translation config.hypothesisClass (config.sourceOf o)) cls c)
      (ht : c.Rejects (TranslationBuilder.values o.text (hypothesis.hypotheses k stamp o.nbest)
        (.ints (stamp + o.nbest.length + 1) (o.alignment.flatMap AlignmentPair.entries))
        (config.sourceOf o)) message) :
      FailsAt config e o m stamp .translation (.construction cls.name (.refused message))

/-- A stage fails with a fault, and no stage before it fails. -/
def Exporter.StopsAt (config : Config) (e : Exporter ClassDef Constructor) (o : DecoderOutput)
    (m : ObjectModel) (stamp : Nat) (stage : Stage) (f : Fault Empty) : Prop :=
  e.FailsAt config o m stamp stage f ∧
    ∀ before g, before.rank < stage.rank → ¬ e.FailsAt config o m stamp before g

/-- No stage of less than a given rank fails. -/
def Exporter.Passes (config : Config) (e : Exporter ClassDef Constructor) (o : DecoderOutput)
    (m : ObjectModel) (stamp rank : Nat) : Prop :=
  ∀ before g, before.rank < rank → ¬ e.FailsAt config o m stamp before g

/-- What a call leaves as it was. A call on the registry `m` has turned the exporter `e` into
`e'` and the registry into `m'`. -/
structure Exporter.Frame (config : Config) (e e' : Exporter ClassDef Constructor)
    (o : DecoderOutput) (m m' : ObjectModel) (stamp : Nat) : Prop where
  -- Where an index does not fit, nothing has changed, the counters of the registry included.
  alignment : ∀ f, e.StopsAt config o m stamp .alignment f → e' = e ∧ m' = m
  -- Where the hypotheses fail, only the handle for hypotheses has asked the registry.
  hypotheses : ∀ stage f, stage = .hypothesisLookup ∨ stage = .candidates →
    e.StopsAt config o m stamp stage f →
    e'.translations = e.translations ∧
      m' = (e.hypotheses.handle.resolve (⟨m, stamp⟩ : World)).2.2.model
  -- The handle for the other kind of translation is never touched.
  idle : ∀ role, role ≠ .hypothesis → role ≠ .translation (config.sourceOf o) →
    e'.handle role = e.handle role
  -- What a handle has found it keeps.
  resolved : ∀ role, (e.handle role).isResolved = true → e'.handle role = e.handle role

namespace Exporter

variable {config : Config} {e : Exporter ClassDef Constructor} {o : DecoderOutput}
  {m : ObjectModel} {stamp : Nat} {f : Fault Empty}

theorem find_hypothesis_iff (he : e.Follows config) {cls : ClassDef} {c : Constructor} :
    e.hypotheses.handle.find m = .ok (cls, c) ↔
      e.hypotheses.handle.Gets m config.hypothesisClass .hypothesis cls c := by
  rw [Handle.find_eq_ok_iff, he.hypothesis_className, he.hypothesis_signature]

theorem find_translation_iff (he : e.Follows config) {source : Option String} {cls : ClassDef}
    {c : Constructor} :
    (e.translations.selected source).find m = .ok (cls, c) ↔
      (e.translations.selected source).Gets m config.translationClass
        (.translation config.hypothesisClass source) cls c := by
  rw [Handle.find_eq_ok_iff, he.selected_className, he.selected_signature]

namespace FailsAt

theorem unique {stage : Stage} {g : Fault Empty} (hf : e.FailsAt config o m stamp stage f)
    (hg : e.FailsAt config o m stamp stage g) : f = g := by
  cases hf with
  | alignment hk hlarge hside hfirst =>
    cases hg with
    | alignment hk' hlarge' hside' hfirst' =>
      obtain ⟨rfl, rfl, rfl⟩ := Alignment.first_misfit_unique hk hk' hlarge hlarge' hside hside'
        hfirst hfirst'
      rfl
  | hypothesisLookup _ hf =>
    cases hg with
    | hypothesisLookup _ hg => exact Except.error.inj (hf.lookup.symm.trans hg.lookup)
  | @candidates cls c k d message hc hk hd hfirst =>
    cases hg with
    | @candidates cls' c' k' d' message' hc' hk' hd' hfirst' =>
      obtain ⟨rfl, rfl⟩ := hc.unique hc'
      rcases Nat.lt_trichotomy k k' with hlt | rfl | hlt
      · exact absurd hd (hfirst' k hlt d hk message)
      · rw [hk, Option.some.injEq] at hk'
        subst hk'
        rw [hd.unique hd']
      · exact absurd hd' (hfirst k' hlt d' hk' message')
  | translationLookup _ hf =>
    cases hg with
    | translationLookup _ hg => exact Except.error.inj (hf.lookup.symm.trans hg.lookup)
  | translation hk hc ht =>
    cases hg with
    | translation hk' hc' ht' =>
      obtain ⟨rfl, rfl⟩ := hk.unique hk'
      obtain ⟨rfl, rfl⟩ := hc.unique hc'
      rw [ht.unique ht']

theorem not_alignment {alignment : Alignment}
    (ha : (Alignment.encode o.alignment : Except (Fault Empty) Alignment) = .ok alignment) :
    ¬ e.FailsAt config o m stamp .alignment f := by
  intro h
  cases h with
  | @alignment k p side hk hlarge hside hfirst =>
    have hp := Alignment.fits_of_encodeFrom_ok ha p (List.mem_of_getElem? hk)
    cases side
    · exact Nat.not_le_of_lt hlarge hp.1
    · exact Nat.not_le_of_lt hlarge hp.2

theorem not_hypothesisLookup (he : e.Follows config) {found : ClassDef × Constructor}
    (hc : e.hypotheses.handle.find m = .ok found) :
    ¬ e.FailsAt config o m stamp .hypothesisLookup f := by
  intro h
  cases h with
  | hypothesisLookup hr hf =>
    rw [Handle.find_of_unresolved hr, he.hypothesis_className, he.hypothesis_signature,
      hf.lookup] at hc
    cases hc

theorem not_candidates (he : e.Follows config) {cls : ClassDef} {c : Constructor}
    (hc : e.hypotheses.handle.find m = .ok (cls, c))
    (hpass : ∀ d ∈ o.nbest, c.refusal? d.values = none) :
    ¬ e.FailsAt config o m stamp .candidates f := by
  intro h
  cases h with
  | @candidates cls' c' k d message hc' hk hd hfirst =>
    obtain ⟨rfl, rfl⟩ := hc'.unique ((find_hypothesis_iff he).1 hc)
    exact Constructor.not_rejects (hpass d (List.mem_of_getElem? hk)) message hd

theorem not_translationLookup (he : e.Follows config) {found : ClassDef × Constructor}
    (hc : (e.translations.selected (config.sourceOf o)).find m = .ok found) :
    ¬ e.FailsAt config o m stamp .translationLookup f := by
  intro h
  cases h with
  | translationLookup hr hf =>
    rw [Handle.find_of_unresolved hr, he.selected_className, he.selected_signature,
      hf.lookup] at hc
    cases hc

theorem not_translation (he : e.Follows config) {cls found : ClassDef} {k c : Constructor}
    {alignment : Alignment}
    (ha : (Alignment.encode o.alignment : Except (Fault Empty) Alignment) = .ok alignment)
    (hk : e.hypotheses.handle.find m = .ok (cls, k))
    (hc : (e.translations.selected (config.sourceOf o)).find m = .ok (found, c))
    (hpass : c.refusal? (TranslationBuilder.values o.text (cls.hypotheses k stamp o.nbest)
      (.ints (stamp + o.nbest.length + 1) alignment.flat) (config.sourceOf o)) = none) :
    ¬ e.FailsAt config o m stamp .translation f := by
  intro h
  cases h with
  | translation hk' hc' ht =>
    obtain ⟨rfl, rfl⟩ := hk'.unique ((find_hypothesis_iff he).1 hk)
    obtain ⟨rfl, rfl⟩ := hc'.unique ((find_translation_iff he).1 hc)
    rw [← Alignment.flat_of_encode_ok ha] at ht
    exact Constructor.not_rejects hpass _ ht

end FailsAt

theorem translation_ok (he : e.Follows config) (hf : e.Each Handle.Fits) {text : String}
    {source : Option String} {objects : List Value} {values : List Int32} {i j n : Nat} {v : Value}
    (h : e.translations.outcome text source m n (.array i config.hypothesisClass objects)
      (.ints j values) = .ok v) :
    ∃ cls c, (e.translations.selected source).find m = .ok (cls, c) ∧
      c.refusal? (TranslationBuilder.values text (.array i config.hypothesisClass objects)
        (.ints j values) source) = none := by
  unfold TranslationBuilder.outcome at h
  split at h
  · cases h
  · rename_i cls c hfind
    have hadmits : c.signature.Admits (TranslationBuilder.values text
        (.array i config.hypothesisClass objects) (.ints j values) source) := by
      rw [signature_of_constructor? ((hf.selected source).find hfind).2, he.selected_signature]
      exact TranslationBuilder.admits_values ..
    have ho := ClassDef.objection_of_make h
    rw [Constructor.objection_of_admits hadmits, Option.map_eq_none_iff] at ho
    exact ⟨cls, c, hfind, ho⟩

namespace Passes

theorem zero : e.Passes config o m stamp 0 :=
  fun _ _ hlt => absurd hlt (Nat.not_lt_zero _)

theorem succ (stage : Stage) (hp : e.Passes config o m stamp stage.rank)
    (hs : ∀ g, ¬ e.FailsAt config o m stamp stage g) :
    e.Passes config o m stamp (stage.rank + 1) := by
  intro before g hlt
  rcases Nat.lt_or_eq_of_le (Nat.le_of_lt_succ hlt) with hlt | heq
  · exact hp before g hlt
  · obtain rfl := Stage.rank_injective heq
    exact hs g

theorem of_encode {alignment : Alignment}
    (ha : (Alignment.encode o.alignment : Except (Fault Empty) Alignment) = .ok alignment) :
    e.Passes config o m stamp Stage.hypothesisLookup.rank :=
  zero.succ .alignment fun _ => FailsAt.not_alignment ha

theorem of_nbest (he : e.Follows config) {alignment : Alignment} {found : ClassDef × Constructor}
    (ha : (Alignment.encode o.alignment : Except (Fault Empty) Alignment) = .ok alignment)
    (hc : e.hypotheses.handle.find m = .ok found)
    (hpass : ∀ d ∈ o.nbest, found.2.refusal? d.values = none) :
    e.Passes config o m stamp Stage.translationLookup.rank := by
  have hlookup : e.Passes config o m stamp Stage.candidates.rank :=
    (of_encode ha).succ .hypothesisLookup fun _ => FailsAt.not_hypothesisLookup he hc
  exact hlookup.succ .candidates fun _ => FailsAt.not_candidates he hc hpass

end Passes

/-- A call with hypotheses returns what becomes of the translation around them. -/
theorem outcome_of_nbest (he : e.Follows config) (hf : e.Each Handle.Fits) {alignment : Alignment}
    {nbest : Value}
    (ha : (Alignment.encode o.alignment : Except (Fault Empty) Alignment) = .ok alignment)
    (hn : e.nbest o m stamp = .ok nbest) :
    ∃ cls c objects, e.hypotheses.handle.find m = .ok (cls, c) ∧
      (∀ d ∈ o.nbest, c.refusal? d.values = none) ∧
      cls.hypotheses c stamp o.nbest =
        .array (stamp + o.nbest.length) config.hypothesisClass objects ∧
      e.outcome o m stamp = e.translations.outcome o.text (config.sourceOf o) m
        (stamp + o.nbest.length + 2)
        (.array (stamp + o.nbest.length) config.hypothesisClass objects)
        (.ints (stamp + o.nbest.length + 1) alignment.flat) := by
  obtain ⟨cls, c, hfind, rfl, hpass⟩ := nbest_eq_hypotheses he hf.hypotheses hn
  have hname : cls.name = config.hypothesisClass := by
    rw [(hf.hypotheses.find hfind).1, he.hypothesis_className]
  have hsource : e.sourceOf o = config.sourceOf o := he.sourceOf o
  refine ⟨cls, c, _, hfind, hpass, by rw [ClassDef.hypotheses, hname], ?_⟩
  simp only [outcome, ha, hn, hsource, ClassDef.hypotheses, hname]

/-- What a call fails with is the fault of the first stage that fails. -/
theorem stopsAt_of_outcome_error (he : e.Follows config) (hf : e.Each Handle.Fits)
    (h : e.outcome o m stamp = .error f) : ∃ stage, e.StopsAt config o m stamp stage f := by
  cases ha : (Alignment.encode o.alignment : Except (Fault Empty) Alignment) with
  | error g =>
    simp only [outcome, ha, Except.error.injEq] at h
    subst h
    obtain ⟨k, p, side, hk, rfl, hlarge, hside, hfirst⟩ := Alignment.encode_error ha
    exact ⟨.alignment, .alignment hk hlarge hside hfirst, Passes.zero⟩
  | ok alignment =>
    cases hn : e.nbest o m stamp with
    | error g =>
      simp only [outcome, ha, hn, Except.error.injEq] at h
      subst h
      obtain hfind | ⟨cls, c, k, d, message, hfind, hd, hm, rfl, hb⟩ :=
        nbest_error he hf.hypotheses hn
      · obtain ⟨hr, hl⟩ := Handle.lacks_of_find hfind
        rw [he.hypothesis_className, he.hypothesis_signature] at hl
        exact ⟨.hypothesisLookup, .hypothesisLookup hr hl, Passes.of_encode ha⟩
      · refine ⟨.candidates, .candidates ((find_hypothesis_iff he).1 hfind) hd
          (Constructor.refusal?_eq_some_iff.1 hm) ?_, ?_⟩
        · intro j hj before hbefore
          exact Constructor.not_rejects (hb j hj before hbefore)
        · exact (Passes.of_encode ha).succ .hypothesisLookup fun _ =>
            FailsAt.not_hypothesisLookup he hfind
    | ok nbest =>
      obtain ⟨cls, k, objects, hfind, hpass, hobjects, houtcome⟩ := outcome_of_nbest he hf ha hn
      have hpasses : e.Passes config o m stamp Stage.translationLookup.rank :=
        Passes.of_nbest he ha hfind hpass
      rw [houtcome] at h
      obtain hlookup | ⟨found, c, message, hc, hm, rfl⟩ := translation_error he hf h
      · obtain ⟨hr, hl⟩ := Handle.lacks_of_find hlookup
        rw [he.selected_className, he.selected_signature] at hl
        exact ⟨.translationLookup, .translationLookup hr hl, hpasses⟩
      · refine ⟨.translation, .translation ((find_hypothesis_iff he).1 hfind)
          ((find_translation_iff he).1 hc) ?_, ?_⟩
        · rw [← Alignment.flat_of_encode_ok ha, hobjects]
          exact Constructor.refusal?_eq_some_iff.1 hm
        · exact hpasses.succ .translationLookup fun _ => FailsAt.not_translationLookup he hc

theorem not_failsAt_of_outcome_ok (he : e.Follows config) (hf : e.Each Handle.Fits) {v : Value}
    (h : e.outcome o m stamp = .ok v) (stage : Stage) : ¬ e.FailsAt config o m stamp stage f := by
  cases ha : (Alignment.encode o.alignment : Except (Fault Empty) Alignment) with
  | error g => simp [outcome, ha] at h
  | ok alignment =>
    cases hn : e.nbest o m stamp with
    | error g => simp [outcome, ha, hn] at h
    | ok nbest =>
      obtain ⟨cls, k, objects, hfind, hpass, hobjects, houtcome⟩ := outcome_of_nbest he hf ha hn
      rw [houtcome] at h
      obtain ⟨found, c, hc, ht⟩ := translation_ok he hf h
      rw [← hobjects] at ht
      have hlookup : e.Passes config o m stamp Stage.translation.rank :=
        (Passes.of_nbest he ha hfind hpass).succ .translationLookup fun _ =>
          FailsAt.not_translationLookup he hc
      have hall := hlookup.succ .translation fun _ => FailsAt.not_translation he ha hfind hc ht
      exact hall stage f stage.rank_lt

theorem StopsAt.unique {stage stage' : Stage} {g : Fault Empty}
    (hs : e.StopsAt config o m stamp stage f) (hs' : e.StopsAt config o m stamp stage' g) :
    f = g := by
  -- were one of them earlier, the other could not be reached
  rcases Nat.lt_trichotomy stage.rank stage'.rank with hlt | heq | hlt
  · exact absurd hs.1 (hs'.2 stage f hlt)
  · obtain rfl := Stage.rank_injective heq
    exact hs.1.unique hs'.1
  · exact absurd hs'.1 (hs.2 stage' g hlt)

theorem outcome_eq_error_iff (he : e.Follows config) (hf : e.Each Handle.Fits) :
    e.outcome o m stamp = .error f ↔ ∃ stage, e.StopsAt config o m stamp stage f := by
  constructor
  · exact stopsAt_of_outcome_error he hf
  · rintro ⟨stage, hs⟩
    cases h : e.outcome o m stamp with
    | ok v => exact absurd hs.1 (not_failsAt_of_outcome_ok he hf h stage)
    | error g =>
      obtain ⟨stage', hs'⟩ := stopsAt_of_outcome_error he hf h
      rw [hs.unique hs']

theorem outcome_fails_iff (he : e.Follows config) (hf : e.Each Handle.Fits) :
    (∃ f, e.outcome o m stamp = .error f) ↔ ∃ stage f, e.FailsAt config o m stamp stage f := by
  constructor
  · rintro ⟨f, h⟩
    obtain ⟨stage, hs⟩ := stopsAt_of_outcome_error he hf h
    exact ⟨stage, f, hs.1⟩
  · rintro ⟨stage, f, hs⟩
    cases h : e.outcome o m stamp with
    | ok v => exact absurd hs (not_failsAt_of_outcome_ok he hf h stage)
    | error g => exact ⟨g, rfl⟩

theorem encode_of_stopsAt {stage : Stage} (hs : e.StopsAt config o m stamp stage f)
    (hne : stage ≠ .alignment) :
    ∃ alignment, (Alignment.encode o.alignment : Except (Fault Empty) Alignment) =
      .ok alignment := by
  cases ha : (Alignment.encode o.alignment : Except (Fault Empty) Alignment) with
  | ok alignment => exact ⟨alignment, rfl⟩
  | error g =>
    obtain ⟨k, p, side, hk, rfl, hlarge, hside, hfirst⟩ := Alignment.encode_error ha
    have hpos : Stage.alignment.rank < stage.rank := by
      have hrank : Stage.alignment.rank ≠ stage.rank := fun h => hne (Stage.rank_injective h).symm
      simp only [Stage.rank] at hrank ⊢
      omega
    exact absurd (.alignment hk hlarge hside hfirst) (hs.2 .alignment _ hpos)

/-- A call that stops at the hypotheses has no array to go on with. -/
theorem nbest_of_stopsAt (he : e.Follows config) (hf : e.hypotheses.handle.Fits) {stage : Stage}
    (hstage : stage = .hypothesisLookup ∨ stage = .candidates)
    (hs : e.StopsAt config o m stamp stage f) : ∃ g, e.nbest o m stamp = .error g := by
  cases hn : e.nbest o m stamp with
  | error g => exact ⟨g, rfl⟩
  | ok nbest =>
    obtain ⟨cls, c, hfind, -, hpass⟩ := nbest_eq_hypotheses he hf hn
    rcases hstage with rfl | rfl
    · exact absurd hs.1 (FailsAt.not_hypothesisLookup he hfind)
    · exact absurd hs.1 (FailsAt.not_candidates he hfind hpass)

theorem frame_marshal (he : e.Follows config) (hf : e.hypotheses.handle.Fits) (w : World) :
    e.Frame config (e.marshal o w).2.1 o w.model (e.marshal o w).2.2.model w.minted := by
  rw [exporter_marshal, model_marshal]
  constructor
  · intro f hs
    cases ha : (Alignment.encode o.alignment : Except (Fault Empty) Alignment) with
    | ok alignment => exact absurd hs.1 (FailsAt.not_alignment ha)
    | error g => simp only [afterwards, consulted, ha, and_self]
  · intro stage f hstage hs
    obtain ⟨alignment, ha⟩ := encode_of_stopsAt hs (by rcases hstage with rfl | rfl <;> simp)
    obtain ⟨g, hn⟩ := nbest_of_stopsAt he hf hstage hs
    simp only [afterwards, consulted, ha, hn, Handle.resolve_eq, and_self]
  · intro role hh hr
    exact handle_afterwards_of_ne hh (by rw [he.sourceOf]; exact hr)
  · intro role hr
    exact handle_afterwards_of_resolved hr

end Exporter

/-- Whatever was registered, replaced and exported before, a call returns the fault of the first
stage that fails, it succeeds exactly if no stage fails, and it leaves as it was what its stage
does not reach. -/
theorem Session.marshal_stops_at_first_stage (config : Config) (models : Nat → ObjectModel)
    (minted : Nat) (history : List Event) (model : Nat) (o : DecoderOutput) :
    let s := (start config models minted).run history
    let m := s.models model
    (∀ f, (s.call model o).1 = .error f ↔
        ∃ stage, s.exporter.StopsAt config o m s.minted stage f) ∧
      ((∃ f, (s.call model o).1 = .error f) ↔
        ∃ stage f, s.exporter.FailsAt config o m s.minted stage f) ∧
      s.exporter.Frame config (s.call model o).2.1 o m (s.call model o).2.2.model s.minted := by
  intro s m
  have hs : Sound config s := (sound_start config models minted).run history
  have hreply : (s.call model o).1 = s.exporter.outcome o m s.minted := s.exporter.fst_marshal o _
  rw [hreply]
  exact ⟨fun f => Exporter.outcome_eq_error_iff hs.follows hs.fits,
    Exporter.outcome_fails_iff hs.follows hs.fits,
    Exporter.frame_marshal hs.follows hs.fits.hypotheses ⟨m, s.minted⟩⟩

end DecoderExport
