import DecoderExport.Proofs.Stages

/-!
# The outcome of an export in the object model

`Exporter.outcome` is what a call returns, as a function of the registry and of the next stamp, and
`Exporter.afterwards` is the exporter that is left. `marshal_eq` ties both to the call itself.

Two facts carry every statement about runs: a call changes an exporter only in what its handles have
found (`forget_afterwards`), and what settling a handle keeps holds of each handle afterwards
(`Each.afterwards`).
-/

namespace DecoderExport

/-- The values that a translation is built from. -/
def TranslationBuilder.values (text : String) (nbest alignment : Value) (source : Option String) :
    List Value :=
  [.text text, nbest, alignment] ++ (source.map Value.text).toList

theorem TranslationBuilder.map_args (text : String) (nbest alignment : Value)
    (source : Option String) :
    (args text nbest alignment source).map Arg.toValue = values text nbest alignment source := by
  cases source <;> rfl

theorem Candidate.map_args (cs : List Candidate) :
    (cs.map Candidate.args).map (·.map Arg.toValue) = cs.map Candidate.values := by
  rw [List.map_map]
  rfl

/-- The translation around two arrays, under the given stamp. -/
def TranslationBuilder.outcome (b : TranslationBuilder ClassDef Constructor) (text : String)
    (source : Option String) (m : ObjectModel) (stamp : Nat) (nbest alignment : Value) :
    Except (Fault Empty) Value :=
  match (b.selected source).find m with
  | .error f => .error f
  | .ok (cls, c) => cls.make c stamp (values text nbest alignment source)

/-- The builder after the handle that serves has asked a registry. -/
def TranslationBuilder.settled (b : TranslationBuilder ClassDef Constructor)
    (source : Option String) (m : ObjectModel) : TranslationBuilder ClassDef Constructor :=
  b.put source ((b.selected source).settled m)

theorem TranslationBuilder.outcome_congr {m m' : ObjectModel} (hm : m.classes = m'.classes)
    (b : TranslationBuilder ClassDef Constructor) (text : String) (source : Option String)
    (stamp : Nat) (nbest alignment : Value) :
    b.outcome text source m stamp nbest alignment =
      b.outcome text source m' stamp nbest alignment := by
  unfold outcome
  rw [Handle.find_congr hm]

theorem TranslationBuilder.settled_congr {m m' : ObjectModel} (hm : m.classes = m'.classes)
    (b : TranslationBuilder ClassDef Constructor) (source : Option String) :
    b.settled source m = b.settled source m' := by
  unfold settled
  rw [Handle.settled_congr hm]

theorem TranslationBuilder.build_world (b : TranslationBuilder ClassDef Constructor)
    (text : String) (nbest alignment : Value) (source : Option String) (w : World) :
    ∃ n, b.build text nbest alignment source w =
      (b.outcome text source w.model w.minted nbest alignment, b.settled source w.model,
        { model := w.model.afterResolving (b.selected source), minted := n }) := by
  rw [build_eq, Handle.create, Handle.resolve_eq]
  unfold outcome settled
  cases (b.selected source).find w.model with
  | error f => exact ⟨w.minted, rfl⟩
  | ok found =>
    obtain ⟨cls, c⟩ := found
    simp only [World.newObject_eq, map_args]
    cases cls.make c w.minted (values text nbest alignment source) with
    | error f => exact ⟨w.minted, rfl⟩
    | ok v => exact ⟨w.minted + 1, rfl⟩

namespace Exporter

variable (e : Exporter ClassDef Constructor) (o : DecoderOutput)

/-- The array of hypotheses, the first of which gets the given stamp. -/
def nbest (m : ObjectModel) (stamp : Nat) : Except (Fault Empty) Value :=
  match e.hypotheses.handle.find m with
  | .error f => .error f
  | .ok (cls, c) =>
    match cls.makeAll c stamp (o.nbest.map Candidate.values) with
    | .error f => .error f
    | .ok objects => cls.gather (stamp + o.nbest.length) objects

/-- What a call returns when the next object gets the given stamp. -/
def outcome (m : ObjectModel) (stamp : Nat) : Except (Fault Empty) Value :=
  match Alignment.encode o.alignment with
  | .error f => .error f
  | .ok alignment =>
    match e.nbest o m stamp with
    | .error f => .error f
    | .ok nbest =>
      e.translations.outcome o.text (e.sourceOf o) m (stamp + o.nbest.length + 2) nbest
        (.ints (stamp + o.nbest.length + 1) alignment.flat)

/-- The exporter that a call leaves behind. -/
def afterwards (m : ObjectModel) (stamp : Nat) : Exporter ClassDef Constructor :=
  match (Alignment.encode o.alignment : Except (Fault Empty) Alignment) with
  | .error _ => e
  | .ok _ =>
    match e.nbest o m stamp with
    | .error _ => { e with hypotheses := ⟨e.hypotheses.handle.settled m⟩ }
    | .ok _ => {
        e with
        hypotheses := ⟨e.hypotheses.handle.settled m⟩
        translations := e.translations.settled (e.sourceOf o) m }

/-- The registry that a call leaves behind: only its counters have moved. -/
def consulted (m : ObjectModel) (stamp : Nat) : ObjectModel :=
  match (Alignment.encode o.alignment : Except (Fault Empty) Alignment) with
  | .error _ => m
  | .ok _ =>
    match e.nbest o m stamp with
    | .error _ => m.afterResolving e.hypotheses.handle
    | .ok _ =>
      (m.afterResolving e.hypotheses.handle).afterResolving
        (e.translations.selected (e.sourceOf o))

theorem classes_consulted (m : ObjectModel) (stamp : Nat) :
    (e.consulted o m stamp).classes = m.classes := by
  unfold consulted
  split
  · rfl
  · split <;> simp

/-- Counters play no part in a call. -/
theorem nbest_congr {m m' : ObjectModel} (hm : m.classes = m'.classes) (stamp : Nat) :
    e.nbest o m stamp = e.nbest o m' stamp := by
  unfold nbest
  rw [Handle.find_congr hm]

theorem outcome_congr {m m' : ObjectModel} (hm : m.classes = m'.classes) (stamp : Nat) :
    e.outcome o m stamp = e.outcome o m' stamp := by
  simp only [outcome, nbest_congr e o hm, TranslationBuilder.outcome_congr hm]

theorem afterwards_congr {m m' : ObjectModel} (hm : m.classes = m'.classes) (stamp : Nat) :
    e.afterwards o m stamp = e.afterwards o m' stamp := by
  simp only [afterwards, nbest_congr e o hm, Handle.settled_congr hm,
    TranslationBuilder.settled_congr hm]

/-- The array of hypotheses is made first, then the array of indices, then the translation. -/
theorem finish_world {cls : ClassDef} {c : Constructor}
    (hr : e.hypotheses.handle.resolved = some (cls, c)) (text : String) (objects : List Value)
    (alignment : Alignment) (source : Option String) (w : World) :
    ∃ n, e.finish text objects alignment source w =
      match cls.gather w.minted objects with
      | .error f => (.error f, e, w)
      | .ok nbest =>
        (e.translations.outcome text source w.model (w.minted + 2) nbest
            (.ints (w.minted + 1) alignment.flat),
          { e with translations := e.translations.settled source w.model },
          { model := w.model.afterResolving (e.translations.selected source), minted := n }) := by
  simp only [finish, HypothesisBuilder.newArray, Handle.createArray,
    Handle.resolve_of_resolved hr, World.newArray_eq]
  cases cls.gather w.minted objects with
  | error f => exact ⟨w.minted, rfl⟩
  | ok nbest =>
    obtain ⟨n, hn⟩ := e.translations.build_world text nbest (.ints (w.minted + 1) alignment.flat)
      source ⟨w.model, w.minted + 2⟩
    refine ⟨n, ?_⟩
    simp only [World.attempted, Host.newInts, World.newInts, World.mint, hn]

/-- The result, the exporter and the registry after a call. -/
theorem marshal_eq (w : World) :
    ∃ n, e.marshal o w =
      (e.outcome o w.model w.minted, e.afterwards o w.model w.minted,
        { model := e.consulted o w.model w.minted, minted := n }) := by
  rw [marshal_staged]
  unfold outcome afterwards consulted nbest
  cases Alignment.encode o.alignment with
  | error f => exact ⟨w.minted, rfl⟩
  | ok alignment =>
    simp only [Handle.resolve_eq]
    cases hf : e.hypotheses.handle.find w.model with
    | error f => exact ⟨w.minted, rfl⟩
    | ok found =>
      obtain ⟨cls, c⟩ := found
      let served : World := ⟨w.model.afterResolving e.hypotheses.handle, w.minted⟩
      simp only
      cases hm : cls.makeAll c w.minted (o.nbest.map Candidate.values) with
      | error f =>
        obtain ⟨n, hn⟩ := World.newObjects_error (w := served)
          ((congrArg _ (Candidate.map_args o.nbest)).trans hm)
        exact ⟨n, by rw [hn]⟩
      | ok objects =>
        have hn := World.newObjects_ok (w := served)
          ((congrArg _ (Candidate.map_args o.nbest)).trans hm)
        obtain ⟨n, hg⟩ := finish_world
          { e with hypotheses := ⟨e.hypotheses.handle.settled w.model⟩ }
          (Handle.resolved_settled_of_ok hf) o.text objects alignment (e.sourceOf o)
          ⟨served.model, w.minted + o.nbest.length⟩
        rw [hn, List.length_map]
        simp only [served] at hg ⊢
        rw [hg]
        cases cls.gather (w.minted + o.nbest.length) objects with
        | error f => exact ⟨_, rfl⟩
        | ok nbest =>
          refine ⟨n, ?_⟩
          simp only [TranslationBuilder.outcome_congr (ObjectModel.classes_afterResolving _ _),
            TranslationBuilder.settled_congr (ObjectModel.classes_afterResolving _ _)]

theorem fst_marshal (w : World) : (e.marshal o w).1 = e.outcome o w.model w.minted := by
  obtain ⟨n, h⟩ := marshal_eq e o w
  rw [h]

theorem exporter_marshal (w : World) :
    (e.marshal o w).2.1 = e.afterwards o w.model w.minted := by
  obtain ⟨n, h⟩ := marshal_eq e o w
  rw [h]

theorem model_marshal (w : World) :
    (e.marshal o w).2.2.model = e.consulted o w.model w.minted := by
  obtain ⟨n, h⟩ := marshal_eq e o w
  rw [h]

variable {e o}

theorem hypotheses_afterwards {m : ObjectModel} {alignment : Alignment}
    (ha : (Alignment.encode o.alignment : Except (Fault Empty) Alignment) = .ok alignment)
    (stamp : Nat) :
    (e.afterwards o m stamp).hypotheses.handle = e.hypotheses.handle.settled m := by
  simp only [afterwards, ha]
  split <;> rfl

theorem selected_afterwards {m : ObjectModel} {stamp : Nat} {alignment : Alignment} {nbest : Value}
    (ha : (Alignment.encode o.alignment : Except (Fault Empty) Alignment) = .ok alignment)
    (hn : e.nbest o m stamp = .ok nbest) :
    (e.afterwards o m stamp).translations.selected (e.sourceOf o) =
      (e.translations.selected (e.sourceOf o)).settled m := by
  simp only [afterwards, ha, hn]
  exact TranslationBuilder.selected_put ..

/-- The exporter without what its handles have found. -/
def forget {γ κ : Type} (e : Exporter γ κ) : Exporter γ κ where
  hypotheses := ⟨e.hypotheses.handle.forget⟩
  translations := ⟨e.translations.narrow.forget, e.translations.extended.forget⟩
  includeSource := e.includeSource

theorem forget_afterwards (m : ObjectModel) (stamp : Nat) :
    (e.afterwards o m stamp).forget = e.forget := by
  unfold afterwards TranslationBuilder.settled TranslationBuilder.put TranslationBuilder.selected
  split
  · rfl
  · split
    · rfl
    · split <;> rfl

/-- Whether something holds of each handle of an exporter. -/
structure Each (P : Handle ClassDef Constructor → Prop) (e : Exporter ClassDef Constructor) :
    Prop where
  hypotheses : P e.hypotheses.handle
  narrow : P e.translations.narrow
  extended : P e.translations.extended

theorem Each.selected {P : Handle ClassDef Constructor → Prop} (he : e.Each P)
    (source : Option String) : P (e.translations.selected source) := by
  unfold TranslationBuilder.selected
  split
  · exact he.extended
  · exact he.narrow

/-- What settling a handle keeps is kept by every call. -/
theorem Each.afterwards {P : Handle ClassDef Constructor → Prop} {m : ObjectModel}
    (hP : ∀ h, P h → P (h.settled m)) (he : e.Each P) (stamp : Nat) :
    (e.afterwards o m stamp).Each P := by
  unfold Exporter.afterwards TranslationBuilder.settled TranslationBuilder.put
    TranslationBuilder.selected
  split
  · exact he
  · split
    · exact ⟨hP _ he.hypotheses, he.narrow, he.extended⟩
    · split
      · exact ⟨hP _ he.hypotheses, he.narrow, hP _ he.extended⟩
      · exact ⟨hP _ he.hypotheses, hP _ he.narrow, he.extended⟩

end Exporter

/-- The kinds of the parameters for a translation with or without source. -/
def Signature.translation (hypothesisClass : String) (source : Option String) : Signature :=
  if source.isSome then .extended hypothesisClass else .narrow hypothesisClass

theorem Candidate.admits_values (d : Candidate) : Signature.hypothesis.Admits d.values :=
  .cons rfl (.cons rfl (.cons rfl .nil))

theorem TranslationBuilder.admits_values (cls text : String) (elements : List Value)
    (values : List Int32) (i j : Nat) (source : Option String) :
    (Signature.translation cls source).Admits
      (TranslationBuilder.values text (.array i cls elements) (.ints j values) source) := by
  have hc : (Value.array i cls elements).fits (.objects cls) = true := by simp [Value.fits]
  cases source with
  | none => exact .cons rfl (.cons hc (.cons rfl .nil))
  | some s => exact .cons rfl (.cons hc (.cons rfl (.cons rfl .nil)))

/-- Apart from what it has found, the exporter is the one that a configuration asks for. -/
def Exporter.Follows (config : Config) (e : Exporter ClassDef Constructor) : Prop :=
  e.forget = .ofConfig config

namespace Exporter.Follows

variable {config : Config} {e : Exporter ClassDef Constructor}

theorem hypothesis_className (he : e.Follows config) :
    e.hypotheses.handle.className = config.hypothesisClass :=
  congrArg (fun e : Exporter ClassDef Constructor => e.hypotheses.handle.className) he

theorem hypothesis_signature (he : e.Follows config) :
    e.hypotheses.handle.signature = .hypothesis :=
  congrArg (fun e : Exporter ClassDef Constructor => e.hypotheses.handle.signature) he

theorem includeSource (he : e.Follows config) : e.includeSource = config.includeSource :=
  congrArg Exporter.includeSource he

theorem sourceOf (he : e.Follows config) (o : DecoderOutput) :
    e.sourceOf o = if config.includeSource then o.source else none := by
  rw [Exporter.sourceOf, he.includeSource]

theorem selected_className (he : e.Follows config) (source : Option String) :
    (e.translations.selected source).className = config.translationClass := by
  have hn := congrArg
    (fun e : Exporter ClassDef Constructor => (e.translations.selected source).className) he
  cases source <;> exact hn

theorem selected_signature (he : e.Follows config) (source : Option String) :
    (e.translations.selected source).signature = .translation config.hypothesisClass source := by
  have hn := congrArg
    (fun e : Exporter ClassDef Constructor => (e.translations.selected source).signature) he
  cases source <;> exact hn

theorem afterwards (he : e.Follows config) (o : DecoderOutput) (m : ObjectModel) (stamp : Nat) :
    (e.afterwards o m stamp).Follows config :=
  (forget_afterwards m stamp).trans he

end Exporter.Follows

/-- The exporter follows a configuration, and its handles hold what a registry would answer. -/
structure Exporter.Serves (config : Config) (m : ObjectModel)
    (e : Exporter ClassDef Constructor) : Prop where
  follows : e.Follows config
  agrees : e.Each (Handle.Agrees m)

namespace Exporter.Serves

variable {config : Config} {m : ObjectModel} {e : Exporter ClassDef Constructor}

theorem ofConfig (config : Config) (m : ObjectModel) :
    (Exporter.ofConfig config : Exporter ClassDef Constructor).Serves config m :=
  ⟨rfl, ⟨nofun, nofun, nofun⟩⟩

theorem afterwards (he : e.Serves config m) (o : DecoderOutput) (stamp : Nat) :
    (e.afterwards o m stamp).Serves config m :=
  ⟨he.follows.afterwards o m stamp, he.agrees.afterwards (fun _ h => h.settled) stamp⟩

/-- Memory makes no difference to the outcome as long as the registry stays the same. -/
theorem outcome_eq (he : e.Serves config m) (o : DecoderOutput) (stamp : Nat) :
    e.outcome o m stamp =
      (Exporter.ofConfig config : Exporter ClassDef Constructor).outcome o m stamp := by
  have hc := ofConfig config m
  have hh : e.hypotheses.handle.find m =
      (Exporter.ofConfig config : Exporter ClassDef Constructor).hypotheses.handle.find m := by
    rw [he.agrees.hypotheses.find, hc.agrees.hypotheses.find, he.follows.hypothesis_className,
      he.follows.hypothesis_signature]
    rfl
  have ht (source : Option String) : (e.translations.selected source).find m =
      ((Exporter.ofConfig config : Exporter ClassDef Constructor).translations.selected
        source).find m := by
    rw [(he.agrees.selected source).find, (hc.agrees.selected source).find,
      he.follows.selected_className, he.follows.selected_signature,
      hc.follows.selected_className, hc.follows.selected_signature]
  simp only [outcome, nbest, TranslationBuilder.outcome, hh, ht, he.follows.sourceOf,
    hc.follows.sourceOf]

end Exporter.Serves

end DecoderExport
