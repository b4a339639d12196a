import DecoderExport.Objects.Rule
import DecoderExport.Proofs.AlignmentCodec
import DecoderExport.Proofs.Session

/-!
# Why an export is refused

One exporter takes turns with several object models, whose classes are registered and replaced in
between. A handle may then hold a class of an older registry or of another model. What it holds
still fits its own name and signature (`Handle.Fits`), and names and signatures never change
(`Exporter.Follows`). This is enough to see that arguments always have the right number and the
right kinds, and that an array always gets elements of its own class: only a validator can refuse.
-/

namespace DecoderExport

/-- The message is what the validator behind a handle says about arguments. -/
def Handle.Refuses (h : Handle ClassDef Constructor) (cls : String) (args : List Value)
    (message : String) : Prop :=
  ∃ found c validator, h.resolved = some (found, c) ∧ found.name = cls ∧
    c.validator = some validator ∧ validator args = .error message

/-- No validator behind a handle has anything against arguments. -/
def Handle.Accepts (h : Handle ClassDef Constructor) (args : List Value) : Prop :=
  ∃ found c, h.resolved = some (found, c) ∧
    ∀ validator, c.validator = some validator → validator args = .ok ()

theorem Constructor.refusal_eq_some {c : Constructor} {args : List Value} {message : String}
    (h : c.refusal? args = some message) :
    ∃ validator, c.validator = some validator ∧ validator args = .error message := by
  unfold refusal? at h
  split at h
  · cases h
  · rename_i validator hv
    refine ⟨validator, hv, ?_⟩
    split at h
    · cases h
    · rename_i message' hm
      rw [hm, Option.some.inj h]

theorem Constructor.refusal_eq_none {c : Constructor} {args : List Value}
    (h : c.refusal? args = none) : ∀ validator, c.validator = some validator →
      validator args = .ok () := by
  intro validator hv
  unfold refusal? at h
  simp only [hv] at h
  split at h
  · assumption
  · cases h

theorem Handle.refuses_of_refusal {h : Handle ClassDef Constructor} {m : ObjectModel}
    {found : ClassDef} {c : Constructor} {args : List Value} {message : String}
    (hf : h.find m = .ok (found, c)) (hm : c.refusal? args = some message) :
    (h.settled m).Refuses found.name args message := by
  obtain ⟨validator, hv, hmessage⟩ := Constructor.refusal_eq_some hm
  exact ⟨found, c, validator, resolved_settled_of_ok hf, rfl, hv, hmessage⟩

theorem Handle.accepts_of_no_refusal {h : Handle ClassDef Constructor} {m : ObjectModel}
    {found : ClassDef} {c : Constructor} {args : List Value}
    (hf : h.find m = .ok (found, c)) (hn : c.refusal? args = none) :
    (h.settled m).Accepts args :=
  ⟨found, c, resolved_settled_of_ok hf, Constructor.refusal_eq_none hn⟩

/-- The array of the objects for candidates, which take their stamps from the given one on. -/
def ClassDef.hypotheses (cls : ClassDef) (c : Constructor) (stamp : Nat) (ds : List Candidate) :
    Value :=
  .array (stamp + ds.length) cls.name ((ds.zipIdx stamp).map fun (d, i) =>
    .object i cls.name (initialFields cls.fields c.assigns d.values))

/-- A construction fault of a call, told from the exporter after it, is the word of a validator: of
the one behind the hypothesis handle on the first candidate that it rejects, or of the one behind
the translation handle that serves the output, on the objects that this call has made of the
candidates. The first of them has the given stamp. -/
def Exporter.RefusedByValidator (e : Exporter ClassDef Constructor) (hypothesisClass : String)
    (stamp : Nat) (o : DecoderOutput) (cls : String) (why : Rejection Empty) : Prop :=
  ∃ message, why = .refused message ∧
    ((∃ (k : Nat) (d : Candidate), o.nbest[k]? = some d ∧
        e.hypotheses.handle.Refuses cls d.values message ∧
        ∀ j < k, ∀ before, o.nbest[j]? = some before →
          e.hypotheses.handle.Accepts before.values) ∨
      ∃ (hypothesis : ClassDef) (c : Constructor) (alignment : Alignment),
        e.hypotheses.handle.resolved = some (hypothesis, c) ∧ hypothesis.name = hypothesisClass ∧
        (∀ d ∈ o.nbest, e.hypotheses.handle.Accepts d.values) ∧
        alignment.decode = o.alignment ∧
        (e.translations.selected (e.sourceOf o)).Refuses cls
          (TranslationBuilder.values o.text (hypothesis.hypotheses c stamp o.nbest)
            (.ints (stamp + o.nbest.length + 1) alignment.flat) (e.sourceOf o)) message)

namespace Exporter

variable {config : Config} {e : Exporter ClassDef Constructor} {o : DecoderOutput}
  {m : ObjectModel} {stamp : Nat} {f : Fault Empty}

/-- The array that is passed on carries the name of the class of its elements. -/
theorem nbest_ok {v : Value} (h : e.nbest o m stamp = .ok v) :
    ∃ cls c objects, e.hypotheses.handle.find m = .ok (cls, c) ∧
      cls.makeAll c stamp (o.nbest.map Candidate.values) = .ok objects ∧
      v = .array (stamp + o.nbest.length) cls.name objects := by
  unfold nbest at h
  split at h
  · cases h
  · rename_i cls c hf
    split at h
    · cases h
    · rename_i objects hm
      rw [ClassDef.gather_of_class (ClassDef.class?_of_makeAll hm), Except.ok.injEq] at h
      exact ⟨cls, c, objects, hf, hm, h.symm⟩

/-- The constructor of hypotheses takes every candidate that its validator takes. -/
theorem refusal_of_objection (he : e.Follows config) (hf : e.hypotheses.handle.Fits)
    {cls : ClassDef} {c : Constructor} (hc : e.hypotheses.handle.find m = .ok (cls, c))
    {d : Candidate} (hd : c.objection? d.values = none) : c.refusal? d.values = none := by
  have hadmits : c.signature.Admits d.values := by
    rw [signature_of_constructor? (hf.find hc).2, he.hypothesis_signature]
    exact d.admits_values
  rwa [Constructor.objection_of_admits hadmits, Option.map_eq_none_iff] at hd

/-- An array of hypotheses holds an object for each candidate, and no candidate was rejected. -/
theorem nbest_eq_hypotheses (he : e.Follows config) (hf : e.hypotheses.handle.Fits) {v : Value}
    (h : e.nbest o m stamp = .ok v) :
    ∃ cls c, e.hypotheses.handle.find m = .ok (cls, c) ∧ v = cls.hypotheses c stamp o.nbest ∧
      ∀ d ∈ o.nbest, c.refusal? d.values = none := by
  obtain ⟨cls, c, objects, hfind, hmake, rfl⟩ := nbest_ok h
  have hpass := ClassDef.objection_of_makeAll hmake
  refine ⟨cls, c, hfind, ?_, ?_⟩
  · rw [ClassDef.makeAll_of_no_objection hpass, List.zipIdx_map, List.map_map,
      Except.ok.injEq] at hmake
    rw [← hmake]
    rfl
  · intro d hd
    exact refusal_of_objection he hf hfind (hpass d.values (List.mem_map_of_mem hd))

/-- The list of hypotheses fails with the lookup, or at the first candidate that the validator of
the constructor rejects. The arguments are always admitted and no element is foreign. -/
theorem nbest_error (he : e.Follows config) (hf : e.hypotheses.handle.Fits)
    (h : e.nbest o m stamp = .error f) :
    e.hypotheses.handle.find m = .error f ∨
      ∃ (cls : ClassDef) (c : Constructor) (k : Nat) (d : Candidate) (message : String),
        e.hypotheses.handle.find m = .ok (cls, c) ∧ o.nbest[k]? = some d ∧
        c.refusal? d.values = some message ∧ f = .construction cls.name (.refused message) ∧
        ∀ j < k, ∀ before, o.nbest[j]? = some before → c.refusal? before.values = none := by
  unfold nbest at h
  split at h
  · rename_i hfind
    obtain rfl := Except.error.inj h
    exact Or.inl hfind
  · rename_i cls c hfind
    have hsig : c.signature = .hypothesis := by
      rw [signature_of_constructor? (hf.find hfind).2, he.hypothesis_signature]
    have hobjection (d : Candidate) :
        c.objection? d.values = (c.refusal? d.values).map .refused := by
      apply Constructor.objection_of_admits
      rw [hsig]
      exact d.admits_values
    split at h
    · rename_i hmake
      obtain rfl := Except.error.inj h
      obtain ⟨k, args, why, hk, hwhy, rfl, hbefore⟩ := ClassDef.makeAll_error hmake
      rw [List.getElem?_map, Option.map_eq_some_iff] at hk
      obtain ⟨d, hd, rfl⟩ := hk
      rw [hobjection, Option.map_eq_some_iff] at hwhy
      obtain ⟨message, hmessage, rfl⟩ := hwhy
      refine Or.inr ⟨cls, c, k, d, message, hfind, hd, hmessage, rfl, ?_⟩
      intro j hj before hb
      have hnone := hbefore j hj before.values (by rw [List.getElem?_map, hb]; rfl)
      rw [hobjection, Option.map_eq_none_iff] at hnone
      exact hnone
    · rename_i objects hmake
      rw [ClassDef.gather_of_class (ClassDef.class?_of_makeAll hmake)] at h
      cases h

/-- A translation fails with the lookup, or because the validator of the selected constructor
rejects it. -/
theorem translation_error (he : e.Follows config) (hf : e.Each Handle.Fits)
    {source : Option String} {objects : List Value} {values : List Int32} {i j : Nat}
    (h : e.translations.outcome o.text source m stamp (.array i config.hypothesisClass objects)
      (.ints j values) = .error f) :
    (e.translations.selected source).find m = .error f ∨
      ∃ (cls : ClassDef) (c : Constructor) (message : String),
        (e.translations.selected source).find m = .ok (cls, c) ∧
        c.refusal? (TranslationBuilder.values o.text (.array i config.hypothesisClass objects)
          (.ints j values) source) = some message ∧
        f = .construction cls.name (.refused message) := by
  unfold TranslationBuilder.outcome at h
  split at h
  · rename_i hfind
    obtain rfl := Except.error.inj h
    exact Or.inl hfind
  · rename_i cls c hfind
    have hadmits : c.signature.Admits (TranslationBuilder.values o.text
        (.array i config.hypothesisClass objects) (.ints j values) source) := by
      rw [signature_of_constructor? ((hf.selected source).find hfind).2, he.selected_signature]
      exact TranslationBuilder.admits_values ..
    unfold ClassDef.make at h
    rw [Constructor.objection_of_admits hadmits] at h
    split at h
    · rename_i why hwhy
      obtain rfl := Except.error.inj h
      rw [Option.map_eq_some_iff] at hwhy
      obtain ⟨message, hmessage, rfl⟩ := hwhy
      exact Or.inr ⟨cls, c, message, hfind, hmessage, rfl⟩
    · cases h

theorem refused_of_outcome (he : e.Follows config) (hf : e.Each Handle.Fits) {cls : String}
    {why : Rejection Empty} (h : e.outcome o m stamp = .error (.construction cls why)) :
    (e.afterwards o m stamp).RefusedByValidator config.hypothesisClass stamp o cls why := by
  have hsource : (e.afterwards o m stamp).sourceOf o = e.sourceOf o := by
    rw [(he.afterwards o m stamp).sourceOf, he.sourceOf]
  unfold RefusedByValidator
  rw [hsource]
  cases halign : (Alignment.encode o.alignment : Except (Fault Empty) Alignment) with
  | error f =>
    obtain ⟨k, p, side, -, rfl, -⟩ := Alignment.encode_error halign
    simp only [outcome, halign] at h
    cases h
  | ok alignment =>
    cases hn : e.nbest o m stamp with
    | error f =>
      simp only [outcome, halign, hn, Except.error.injEq] at h
      subst h
      obtain hfind | ⟨found, c, k, d, message, hfind, hd, hm, hcls, hb⟩ :=
        nbest_error he hf.hypotheses hn
      · cases Handle.isLinkage_of_find_error hfind
      · injection hcls with hcls hwhy
        subst hcls hwhy
        rw [hypotheses_afterwards halign]
        refine ⟨message, rfl, Or.inl ⟨k, d, hd, Handle.refuses_of_refusal hfind hm, ?_⟩⟩
        intro j hj before hbefore
        exact Handle.accepts_of_no_refusal hfind (hb j hj before hbefore)
    | ok nbest =>
      rw [selected_afterwards halign hn, hypotheses_afterwards halign]
      obtain ⟨hypothesis, k, hk, rfl, hpass⟩ := nbest_eq_hypotheses he hf.hypotheses hn
      have hname : hypothesis.name = config.hypothesisClass := by
        rw [(hf.hypotheses.find hk).1, he.hypothesis_className]
      simp only [outcome, halign, hn, ClassDef.hypotheses, hname] at h
      obtain hfind | ⟨found, c, message, hfind, hm, hcls⟩ := translation_error he hf h
      · cases Handle.isLinkage_of_find_error hfind
      · injection hcls with hcls hwhy
        subst hcls hwhy
        refine ⟨message, rfl, Or.inr ⟨hypothesis, k, alignment, Handle.resolved_settled_of_ok hk,
          hname, ?_, ?_, Handle.refuses_of_refusal hfind ?_⟩⟩
        · intro d hd
          exact Handle.accepts_of_no_refusal hk (hpass d hd)
        · rw [Alignment.decode, Alignment.flat_of_encode_ok halign,
            Alignment.pairsOf_entries (Alignment.fits_of_encodeFrom_ok halign)]
        · rwa [ClassDef.hypotheses, hname]

end Exporter

namespace Session

/-- Whatever was registered, replaced and exported before, and in whichever models, a construction
fault comes from a validator. Counts, kinds and element classes are never the reason. -/
theorem refused_by_validator (config : Config) (models : Nat → ObjectModel) (minted : Nat)
    (history : List Event) (model : Nat) (o : DecoderOutput) {cls : String}
    {why : Rejection Empty} :
    let s := (start config models minted).run history
    (s.call model o).1 = .error (.construction cls why) →
      (s.step (.marshal model o)).exporter.RefusedByValidator config.hypothesisClass s.minted o cls
        why := by
  intro s h
  have hs : Sound config s := (sound_start config models minted).run history
  rw [call, Exporter.fst_marshal] at h
  rw [exporter_step_marshal]
  exact Exporter.refused_of_outcome hs.follows hs.fits h

/-- A class of hypotheses that takes no score that is not a number. -/
def strictHypothesisClass : ClassDef where
  name := defaultHypothesisClass
  fields := ["text", "totalScore", "featureValues"]
  constructors := [⟨.hypothesis, ["text", "totalScore", "featureValues"],
    some (Rule.notNaN.validator 1 "score is NaN")⟩]
  suited := by simp [Constructor.Suits, Signature.hypothesis, Signature.arity]

/-- The strict class is found in one model, where the translation is missing. Then another model,
whose own classes take anything, has the second candidate refused by the strict class. -/
theorem refused_by_validator_of_other_model :
    let nan : Number.Single := .ofBits Number.single 2143289344
    let o : DecoderOutput := ⟨"", none, [⟨"", .ofBits Number.single 0, ""⟩, ⟨"", nan, ""⟩], []⟩
    let s := (start {} (fun i => if i = 0 then .empty else .withDefaultClasses) 0).run
      [.register 0 strictHypothesisClass, .marshal 0 ⟨"", none, [], []⟩]
    (s.call 1 o).1 = .error (.construction defaultHypothesisClass (.refused "score is NaN")) ∧
      (s.step (.marshal 1 o)).exporter.RefusedByValidator defaultHypothesisClass s.minted o
        defaultHypothesisClass (.refused "score is NaN") :=
  ⟨rfl, refused_by_validator {} _ 0 _ 1 _ rfl⟩

end Session

end DecoderExport
