import DecoderExport.Proofs.Construction

/-!
# The stages of an export

`Exporter.marshal` asks its handles again and again; `marshal_staged` says that on every host it
behaves as if the constructor of the hypotheses were looked up once, before anything is built, also
when there is nothing to build.
-/

namespace DecoderExport

/-- The arguments for the hypothesis of a candidate. -/
def Candidate.args {ω : Type} (c : Candidate) : List (Arg ω) :=
  [.text c.text, .float c.score, .text c.features]

/-- The values that the hypothesis of a candidate is built from. -/
def Candidate.values (c : Candidate) : List Value :=
  [.text c.text, .float c.score, .text c.features]

section AnyHost

variable {σ ω γ κ ρ : Type} [Host σ ω γ κ ρ]

theorem Handle.resolve_of_resolved {h : Handle γ κ} {found : γ × κ} (hr : h.resolved = some found)
    (s : σ) : h.resolve s = (.ok found, h, s) := by
  simp only [resolve, hr]

theorem Handle.resolved_of_resolve {h h' : Handle γ κ} {found : γ × κ} {s s' : σ}
    (hr : h.resolve s = (.ok found, h', s')) : h'.resolved = some found := by
  unfold resolve at hr
  split at hr
  · cases hr; assumption
  · split at hr
    · cases hr
    · split at hr <;> cases hr
      rfl

namespace HypothesisBuilder

/-- Once the constructor is at hand, candidates are built with it one after the other. -/
theorem createAll_of_resolved {b : HypothesisBuilder γ κ} {cls : γ} {c : κ}
    (hb : b.handle.resolved = some (cls, c)) (cs : List Candidate) (s : σ) :
    b.createAll cs s =
      ((Host.newObjects cls c (cs.map Candidate.args) s).1, b,
        (Host.newObjects cls c (cs.map Candidate.args) s).2) := by
  induction cs generalizing s with
  | nil => rfl
  | cons d ds ih =>
    have hc : b.create d s =
        ((Host.newObject cls c d.args s).1, b, (Host.newObject cls c d.args s).2) := by
      simp only [create, Handle.create, Handle.resolve_of_resolved hb]
      rfl
    simp only [createAll, hc, List.map_cons, Host.newObjects]
    rcases Host.newObject cls c d.args s with ⟨_ | v, s'⟩
    · rfl
    · simp only [ih]

/-- The first candidate brings the lookup with it. -/
theorem createAll_cons (b : HypothesisBuilder γ κ) (d : Candidate) (ds : List Candidate) (s : σ) :
    b.createAll (d :: ds) s =
      match b.handle.resolve s with
      | (.error f, h, s) => (.error f, ⟨h⟩, s)
      | (.ok _, h, s) => HypothesisBuilder.createAll ⟨h⟩ (d :: ds) s := by
  rcases hr : b.handle.resolve s with ⟨f | found, h, s'⟩
  · simp only [createAll, create, Handle.create, hr]
  · have hh := Handle.resolve_of_resolved (Handle.resolved_of_resolve hr) s'
    simp only [createAll, create, Handle.create, hr, hh]

end HypothesisBuilder

namespace TranslationBuilder

/-- The handle that serves a translation with or without source. -/
def selected (b : TranslationBuilder γ κ) (source : Option String) : Handle γ κ :=
  if source.isSome then b.extended else b.narrow

/-- The builder with another state of the handle that served. -/
def put (b : TranslationBuilder γ κ) (source : Option String) (h : Handle γ κ) :
    TranslationBuilder γ κ :=
  if source.isSome then { b with extended := h } else { b with narrow := h }

theorem selected_put (b : TranslationBuilder γ κ) (source : Option String) (h : Handle γ κ) :
    (b.put source h).selected source = h := by
  cases source <;> rfl

/-- The arguments for a translation. -/
def args (text : String) (nbest alignment : ω) (source : Option String) : List (Arg ω) :=
  [.text text, .object nbest, .object alignment] ++ (source.map Arg.text).toList

theorem build_eq (b : TranslationBuilder γ κ) (text : String) (nbest alignment : ω)
    (source : Option String) (s : σ) :
    b.build text nbest alignment source s =
      let (reply, h, s) := (b.selected source).create (args text nbest alignment source) s
      (reply, b.put source h, s) := by
  cases source <;> rfl

end TranslationBuilder

/-- The hypotheses are looked up once and first, also when there are no candidates. -/
theorem Exporter.marshal_staged (e : Exporter γ κ) (o : DecoderOutput) (s : σ) :
    e.marshal o s =
      match Alignment.encode o.alignment with
      | .error f => (.error f, e, s)
      | .ok alignment =>
        match e.hypotheses.handle.resolve s with
        | (.error f, h, s) => (.error f, { e with hypotheses := ⟨h⟩ }, s)
        | (.ok (cls, c), h, s) =>
          match Host.newObjects cls c (o.nbest.map Candidate.args) s with
          | (.error f, s) => (.error f, { e with hypotheses := ⟨h⟩ }, s)
          | (.ok objects, s) =>
            Exporter.finish { e with hypotheses := ⟨h⟩ } o.text objects alignment
              (e.sourceOf o) s := by
  unfold marshal
  cases Alignment.encode o.alignment with
  | error f => rfl
  | ok alignment =>
    rcases hr : e.hypotheses.handle.resolve s with ⟨f | ⟨cls, c⟩, h, s'⟩
    · cases hn : o.nbest with
      | nil =>
        simp only [HypothesisBuilder.createAll, finish, HypothesisBuilder.newArray,
          Handle.createArray, hr]
      | cons d ds => simp only [HypothesisBuilder.createAll_cons, hr]
    · have hh : (⟨h⟩ : HypothesisBuilder γ κ).handle.resolved = some (cls, c) :=
        Handle.resolved_of_resolve hr
      cases hn : o.nbest with
      | nil =>
        simp only [HypothesisBuilder.createAll, List.map_nil, Host.newObjects, finish,
          HypothesisBuilder.newArray, Handle.createArray, hr, Handle.resolve_of_resolved hh]
      | cons d ds =>
        simp only [HypothesisBuilder.createAll_cons, hr,
          HypothesisBuilder.createAll_of_resolved hh]
        rcases Host.newObjects cls c ((d :: ds).map Candidate.args) s' with ⟨_ | vs, s''⟩ <;> rfl

end AnyHost

end DecoderExport
