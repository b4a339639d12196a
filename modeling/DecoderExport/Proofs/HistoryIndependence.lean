import DecoderExport.Proofs.Likeness
import DecoderExport.Proofs.Refusal

/-!
# Calls do not depend on earlier calls

While the registry stays as it is, an exporter answers as a new one would: with the very same reply
at the same moment, and with an alike one at any other moment if validators judge by value. Earlier
calls may have failed at any stage and left any of the handles resolved.
-/

namespace DecoderExport

theorem ObjectModel.ByValue.of_lookup {m : ObjectModel} (hm : m.ByValue) {name : String}
    {signature : Signature} {cls : ClassDef} {c : Constructor}
    (h : m.lookup name signature = .ok (cls, c)) : c.ByValue := by
  obtain ⟨hcls, hc⟩ := lookup_eq_ok_iff.1 h
  exact hm cls (List.mem_of_find?_eq_some hcls) c (List.mem_of_find?_eq_some hc)

theorem ObjectModel.ByValue.register {m : ObjectModel} (hm : m.ByValue) {cls : ClassDef}
    (hcls : ∀ c ∈ cls.constructors, c.ByValue) : (m.register cls).ByValue := by
  intro other hother
  rcases List.mem_cons.1 hother with rfl | hother
  · exact hcls
  · exact hm other (List.mem_of_mem_filter hother)

theorem ObjectModel.byValue_withDefaultClasses : withDefaultClasses.ByValue := by
  have hempty : ObjectModel.empty.ByValue := nofun
  refine (hempty.register ?_).register ?_
  all_goals
    intro c hc validator hv
    simp only [hypothesisClass, translationClass, List.mem_cons, List.not_mem_nil, or_false] at hc
  · subst hc
    cases hv
  · rcases hc with rfl | rfl <;> cases hv

theorem TranslationBuilder.values_alike {nbest nbest' : Value} (h : nbest.Alike nbest')
    (text : String) (values : List Int32) (i i' : Nat) (source : Option String) :
    (TranslationBuilder.values text nbest (.ints i values) source).map Value.unstamped =
      (TranslationBuilder.values text nbest' (.ints i' values) source).map Value.unstamped := by
  have h' : nbest.unstamped = nbest'.unstamped := h
  cases source <;>
    simp only [TranslationBuilder.values, List.map_append, List.map_cons, h', Value.unstamped]

namespace Exporter

variable (e : Exporter ClassDef Constructor) (o : DecoderOutput)

theorem nbest_alike (m : ObjectModel) (stamp stamp' : Nat) :
    AlikeReplies (e.nbest o m stamp) (e.nbest o m stamp') := by
  unfold nbest
  cases e.hypotheses.handle.find m with
  | error f => rfl
  | ok found =>
    obtain ⟨cls, c⟩ := found
    have hmake := cls.makeAll_alike c (o.nbest.map Candidate.values) stamp stamp'
    simp only
    obtain ⟨f, h, h'⟩ | ⟨objects, objects', h, h', hobjects⟩ := cases_of_map_eq_map hmake
    · rw [h, h']
      rfl
    · rw [h, h']
      exact ClassDef.gather_alike hobjects _ _

/-- The moment of a call shows in the identity of what it makes only. -/
theorem outcome_alike {m : ObjectModel}
    (hv : ∀ cls c, (e.translations.selected (e.sourceOf o)).find m = .ok (cls, c) → c.ByValue)
    (stamp stamp' : Nat) : AlikeReplies (e.outcome o m stamp) (e.outcome o m stamp') := by
  unfold outcome
  cases Alignment.encode o.alignment with
  | error f => rfl
  | ok alignment =>
    simp only
    obtain ⟨f, h, h'⟩ | ⟨nbest, nbest', h, h', hnbest⟩ :=
      cases_of_map_eq_map (nbest_alike e o m stamp stamp')
    · rw [h, h']
      rfl
    · rw [h, h']
      simp only [TranslationBuilder.outcome]
      cases hc : (e.translations.selected (e.sourceOf o)).find m with
      | error f => rfl
      | ok found =>
        have hargs := TranslationBuilder.values_alike hnbest o.text alignment.flat
          (stamp + o.nbest.length + 1) (stamp' + o.nbest.length + 1) (e.sourceOf o)
        exact ClassDef.make_alike hargs ((hv _ _ hc).objection_eq hargs) _ _

end Exporter

namespace Session

/-- After any calls on an unchanged registry a call returns what a new exporter would return at that
moment. If validators judge by value, it returns what a new exporter would return at any moment, up
to which objects are made. -/
theorem call_eq_first_call (config : Config) (m : ObjectModel) (minted : Nat)
    (history : List (Nat × DecoderOutput)) (model : Nat) (o : DecoderOutput) :
    let s := (start config (fun _ => m) minted).run
      (history.map fun (model, o) => .marshal model o)
    let first (w : World) := ((Exporter.ofConfig config).marshal o w).1
    (s.call model o).1 = first ⟨s.models model, s.minted⟩ ∧
      (m.ByValue → ∀ n, AlikeReplies (s.call model o).1 (first ⟨m, n⟩)) := by
  intro s first
  have hs : Uniform config m s := (uniform_start config m minted).run_marshals history
  have hfirst (w : World) : first w = (Exporter.ofConfig config).outcome o w.model w.minted :=
    Exporter.fst_marshal _ o w
  have hcall : (s.call model o).1 = (Exporter.ofConfig config).outcome o m s.minted := by
    rw [hs.fst_call, hs.serves.outcome_eq]
  constructor
  · rw [hcall, hfirst, Exporter.outcome_congr _ _ (hs.classes model)]
  · intro hm n
    rw [hcall, hfirst]
    apply Exporter.outcome_alike
    intro cls c hc
    rw [((Exporter.Serves.ofConfig config m).agrees.selected _).find] at hc
    exact hm.of_lookup hc

/-- A call with a rejected candidate and a call without candidates go before. The third call then
makes a translation that is alike to the first one of another exporter. -/
theorem third_call_eq_first_call :
    let m := ObjectModel.withDefaultClasses.register strictHypothesisClass
    let nan : Number.Single := .ofBits Number.single 2143289344
    let rejected : DecoderOutput := ⟨"", none, [⟨"", nan, ""⟩], []⟩
    let o : DecoderOutput := ⟨"t", some "s", [⟨"h", .ofBits Number.single 0, ""⟩], [⟨0, 1⟩]⟩
    let s := (start {} (fun _ => m) 0).run
      ([(0, rejected), (0, ⟨"", none, [], []⟩)].map fun (model, o) => .marshal model o)
    m.ByValue ∧ (s.call 0 o).1.map Value.class? = .ok (some defaultTranslationClass) ∧
      AlikeReplies (s.call 0 o).1 ((Exporter.ofConfig {}).marshal o (⟨m, 0⟩ : World)).1 := by
  intro m nan rejected o s
  have hm : m.ByValue := by
    refine ObjectModel.byValue_withDefaultClasses.register ?_
    intro c hc validator hv
    simp only [strictHypothesisClass, List.mem_singleton] at hc
    subst hc
    obtain rfl := Option.some.inj hv
    exact Rule.byValue_validator .notNaN 1 "score is NaN"
  exact ⟨hm, rfl, (call_eq_first_call {} m 0 _ 0 o).2 hm 0⟩

end Session

end DecoderExport
