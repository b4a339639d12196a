import DecoderExport.Proofs.AlignmentCodec
import DecoderExport.Proofs.Outcome

/-!
# Exports with the default classes

In a registry with the default classes a call can fail for two reasons only: an index does not fit,
or a class name is not the default one. Otherwise the result is `Value.exported`, which is spelled
out here together with its JSON form. Stamps show in the value and not in its JSON form.
-/

namespace DecoderExport

open DecoderExport.Json (Tree)

/-- The object for a candidate. -/
def Value.ofCandidate (stamp : Nat) (d : Candidate) : Value :=
  .object stamp defaultHypothesisClass
    [("text", .text d.text), ("totalScore", .float d.score), ("featureValues", .text d.features)]

/-- The object for an output, with the stamps that a call hands out from the given one on. -/
def Value.exported (stamp : Nat) (o : DecoderOutput) (source : Option String)
    (flat : List Int32) : Value :=
  .object (stamp + o.nbest.length + 2) defaultTranslationClass
    [("text", .text o.text),
      ("hypotheses", .array (stamp + o.nbest.length) defaultHypothesisClass
        ((o.nbest.zipIdx stamp).map fun (d, i) => .ofCandidate i d)),
      ("alignment", .ints (stamp + o.nbest.length + 1) flat),
      ("source", source.elim .null .text)]

/-- The JSON form of the hypothesis for a candidate. -/
def Candidate.exported (d : Candidate) : Tree :=
  .object [("featureValues", .string d.features), ("text", .string d.text),
    ("totalScore", Value.floatJson d.score)]

/-- The JSON form of the translation for an output. -/
def DecoderOutput.exported (o : DecoderOutput) (includeSource : Bool) : Tree :=
  .object [
    ("alignment", .array (o.alignment.flatMap fun p =>
      [.int p.source.toNat, .int p.target.toNat])),
    ("hypotheses", .array (o.nbest.map Candidate.exported)),
    ("source", if includeSource then o.source.elim .null .string else .null),
    ("text", .string o.text)]

theorem toJson_ofCandidate (stamp : Nat) (d : Candidate) :
    (Value.ofCandidate stamp d).toJson = d.exported := by
  rfl

theorem elementsJson_ofCandidate (ds : List Candidate) (stamp : Nat) :
    Value.elementsJson ((ds.zipIdx stamp).map fun (d, i) => .ofCandidate i d) =
      ds.map Candidate.exported := by
  induction ds generalizing stamp with
  | nil => rfl
  | cons d ds ih =>
    simp only [List.zipIdx_cons, List.map_cons, Value.elementsJson, toJson_ofCandidate, ih]

/-- Entries that fit show as the indices they come from. -/
theorem intsJson_entries {pairs : List AlignmentPair} (h : ∀ p ∈ pairs, p.Fits) :
    ((pairs.flatMap AlignmentPair.entries).map fun v => Tree.int v.toInt) =
      pairs.flatMap fun p => [.int p.source.toNat, .int p.target.toNat] := by
  induction pairs with
  | nil => rfl
  | cons p pairs ih =>
    obtain ⟨⟨hs, ht⟩, hr⟩ := List.forall_mem_cons.1 h
    simp only [List.flatMap_cons, List.map_append, ih hr, AlignmentPair.entries, List.map_cons,
      List.map_nil, toInt_ofNat_of_le hs, toInt_ofNat_of_le ht]

theorem toJson_exported {o : DecoderOutput} (h : ∀ p ∈ o.alignment, p.Fits) (stamp : Nat)
    (includeSource : Bool) :
    (Value.exported stamp o (if includeSource then o.source else none)
      (o.alignment.flatMap AlignmentPair.entries)).toJson = o.exported includeSource := by
  have hs : ((if includeSource then o.source else none).elim Value.null Value.text).toJson =
      if includeSource then o.source.elim .null .string else .null := by
    cases includeSource
    · rfl
    · cases o.source <;> rfl
  rw [DecoderOutput.exported, ← intsJson_entries h, ← elementsJson_ofCandidate o.nbest stamp, ← hs]
  rfl

/-- The constructor of the default class of hypotheses. -/
def hypothesisConstructor : Constructor :=
  ⟨.hypothesis, ["text", "totalScore", "featureValues"], none⟩

/-- The constructors of the default class of translations. -/
def translationConstructor (source : Option String) : Constructor :=
  if source.isSome then
    ⟨.extended defaultHypothesisClass, ["text", "hypotheses", "alignment", "source"], none⟩
  else ⟨.narrow defaultHypothesisClass, ["text", "hypotheses", "alignment"], none⟩

namespace ObjectModel

theorem lookup_of_class?_eq_none {m : ObjectModel} {name : String} (h : m.class? name = none)
    (signature : Signature) :
    m.lookup name signature = .error (.linkage name "" .classNotRegistered) := by
  simp only [lookup, h]

theorem class?_default_of_ne {name : String} (hh : name ≠ defaultHypothesisClass)
    (ht : name ≠ defaultTranslationClass) : withDefaultClasses.class? name = none := by
  have hc : withDefaultClasses.classes = [translationClass, hypothesisClass] := rfl
  rw [class?, hc]
  simp [translationClass, hypothesisClass, hh.symm, ht.symm]

theorem lookup_hypothesis_default :
    withDefaultClasses.lookup defaultHypothesisClass .hypothesis =
      .ok (hypothesisClass, hypothesisConstructor) := rfl

/-- Only one of the default classes has the constructor of hypotheses. -/
theorem lookup_hypothesis_of_ne {name : String} (h : name ≠ defaultHypothesisClass) :
    ∃ f, withDefaultClasses.lookup name .hypothesis = .error f := by
  by_cases ht : name = defaultTranslationClass
  · subst ht
    exact ⟨_, rfl⟩
  · exact ⟨_, lookup_of_class?_eq_none (class?_default_of_ne h ht) _⟩

theorem lookup_translation_default (source : Option String) :
    withDefaultClasses.lookup defaultTranslationClass
        (.translation defaultHypothesisClass source) =
      .ok (translationClass, translationConstructor source) := by
  cases source <;> rfl

/-- Only one of the default classes has constructors of translations. -/
theorem lookup_translation_of_ne {name : String} (h : name ≠ defaultTranslationClass)
    (source : Option String) :
    ∃ f, withDefaultClasses.lookup name (.translation defaultHypothesisClass source) =
      .error f := by
  by_cases hh : name = defaultHypothesisClass
  · subst hh
    cases source <;> exact ⟨_, rfl⟩
  · exact ⟨_, lookup_of_class?_eq_none (class?_default_of_ne hh h) _⟩

end ObjectModel

namespace Exporter

variable {config : Config} {e : Exporter ClassDef Constructor} {o : DecoderOutput}

theorem find_hypothesis (he : e.Serves config .withDefaultClasses) :
    e.hypotheses.handle.find .withDefaultClasses =
      ObjectModel.withDefaultClasses.lookup config.hypothesisClass .hypothesis := by
  rw [he.agrees.hypotheses.find, he.follows.hypothesis_className, he.follows.hypothesis_signature]

theorem find_translation (he : e.Serves config .withDefaultClasses) (source : Option String) :
    (e.translations.selected source).find .withDefaultClasses =
      ObjectModel.withDefaultClasses.lookup config.translationClass
        (.translation config.hypothesisClass source) := by
  rw [(he.agrees.selected source).find, he.follows.selected_className,
    he.follows.selected_signature]

/-- The default class of hypotheses takes every candidate. -/
theorem makeAll_default (ds : List Candidate) (stamp : Nat) :
    hypothesisClass.makeAll hypothesisConstructor stamp (ds.map Candidate.values) =
      .ok ((ds.zipIdx stamp).map fun (d, i) => .ofCandidate i d) := by
  rw [ClassDef.makeAll_of_no_objection]
  · rw [List.zipIdx_map, List.map_map]
    rfl
  · intro args hargs
    obtain ⟨d, -, rfl⟩ := List.mem_map.1 hargs
    rw [Constructor.objection_of_admits d.admits_values]
    rfl

theorem nbest_default (he : e.Serves config .withDefaultClasses)
    (hh : config.hypothesisClass = defaultHypothesisClass) (stamp : Nat) :
    e.nbest o .withDefaultClasses stamp =
      .ok (.array (stamp + o.nbest.length) defaultHypothesisClass
        ((o.nbest.zipIdx stamp).map fun (d, i) => .ofCandidate i d)) := by
  have hmake := makeAll_default o.nbest stamp
  unfold nbest
  rw [find_hypothesis he, hh, ObjectModel.lookup_hypothesis_default]
  simp only [hmake]
  exact ClassDef.gather_of_class (ClassDef.class?_of_makeAll hmake) _

/-- The default class of translations takes every pair of arrays, with or without source. -/
theorem make_default (stamp i j : Nat) (text : String) (elements : List Value)
    (values : List Int32) (source : Option String) :
    translationClass.make (translationConstructor source) stamp
        (TranslationBuilder.values text (.array i defaultHypothesisClass elements)
          (.ints j values) source) =
      .ok (.object stamp defaultTranslationClass
        [("text", .text text), ("hypotheses", .array i defaultHypothesisClass elements),
          ("alignment", .ints j values), ("source", source.elim .null .text)]) := by
  cases source with
  | none => rfl
  | some s => rfl

/-- With the default names every output whose indices fit is exported as it stands. -/
theorem outcome_default (he : e.Serves config .withDefaultClasses)
    (hh : config.hypothesisClass = defaultHypothesisClass)
    (ht : config.translationClass = defaultTranslationClass) (hfits : ∀ p ∈ o.alignment, p.Fits)
    (stamp : Nat) :
    e.outcome o .withDefaultClasses stamp = .ok (.exported stamp o
      (if config.includeSource then o.source else none)
      (o.alignment.flatMap AlignmentPair.entries)) := by
  obtain ⟨alignment, ha, hflat⟩ := Alignment.encode_ok (ρ := Empty) hfits
  simp only [outcome, ha, hflat, nbest_default he hh, TranslationBuilder.outcome,
    find_translation he, hh, ht, ObjectModel.lookup_translation_default, make_default,
    he.follows.sourceOf]
  rfl

/-- With another name the lookup fails, and it fails the same way in every state. -/
theorem outcome_other (hn : ¬ (config.hypothesisClass = defaultHypothesisClass ∧
      config.translationClass = defaultTranslationClass)) (hfits : ∀ p ∈ o.alignment, p.Fits) :
    ∃ f, f.isLinkage = true ∧ ∀ e : Exporter ClassDef Constructor,
      e.Serves config .withDefaultClasses → ∀ stamp,
        e.outcome o .withDefaultClasses stamp = .error f := by
  obtain ⟨alignment, ha, -⟩ := Alignment.encode_ok (ρ := Empty) hfits
  by_cases hh : config.hypothesisClass = defaultHypothesisClass
  · have ht : config.translationClass ≠ defaultTranslationClass := fun ht => hn ⟨hh, ht⟩
    obtain ⟨f, hf⟩ := ObjectModel.lookup_translation_of_ne ht
      (if config.includeSource then o.source else none)
    refine ⟨f, ObjectModel.isLinkage_of_lookup_error hf, ?_⟩
    intro e he stamp
    simp only [outcome, ha, nbest_default he hh, TranslationBuilder.outcome,
      find_translation he, hh, he.follows.sourceOf, hf]
  · obtain ⟨f, hf⟩ := ObjectModel.lookup_hypothesis_of_ne hh
    refine ⟨f, ObjectModel.isLinkage_of_lookup_error hf, ?_⟩
    intro e he stamp
    simp only [outcome, ha, nbest, find_hypothesis he, hf]

end Exporter

end DecoderExport
