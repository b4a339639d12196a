import DecoderExport.Exporter
import Mathlib.Data.List.Forall2

/-!
# Related hosts

Two hosts run in step when every operation, done on both with related arguments in related states,
ends in the same fault or in related results, and what has been related stays so. An exporter then
does the same on both, whatever it has looked up before (`Exporter.marshal_inStep`). What is true of
single operations need not be followed through the exporter a second time.
-/

namespace DecoderExport

open DecoderExport.Number (Single)

/-- Arguments that are the same plain value, or related objects. -/
inductive Arg.Related {ω ω' : Type} (Q : ω → ω' → Prop) : Arg ω → Arg ω' → Prop
  | text (s : String) : Related Q (.text s) (.text s)
  | float (x : Single) : Related Q (.float x) (.float x)
  | object {a : ω} {b : ω'} (h : Q a b) : Related Q (.object a) (.object b)

/-- Which states of two hosts are related, and which objects are while the first host is in a
state. -/
structure HostRelation (σ τ ω ω' : Type) where
  states : σ → τ → Prop
  objects : σ → ω → ω' → Prop

namespace HostRelation

variable {σ τ ω ω' γ κ ρ α β : Type} (r : HostRelation σ τ ω ω')

/-- What is related in one state is related in another one. -/
def Lasts (s s' : σ) : Prop := ∀ a b, r.objects s a b → r.objects s' a b

/-- How an operation that starts in a state ends on both hosts. -/
inductive Ends (s : σ) (P : σ → α → β → Prop) :
    Except (Fault ρ) α × σ → Except (Fault ρ) β × τ → Prop
  | error (f : Fault ρ) {s' : σ} {t' : τ} (states : r.states s' t') (lasts : r.Lasts s s') :
      Ends s P (.error f, s') (.error f, t')
  | ok {a : α} {b : β} {s' : σ} {t' : τ} (states : r.states s' t') (lasts : r.Lasts s s')
      (results : P s' a b) : Ends s P (.ok a, s') (.ok b, t')

/-- How an operation of an exporter, or of a part of one, ends on both hosts: it leaves the same
part. -/
inductive EndsWith {δ : Type} (s : σ) (P : σ → α → β → Prop) :
    Except (Fault ρ) α × δ × σ → Except (Fault ρ) β × δ × τ → Prop
  | error (f : Fault ρ) (part : δ) {s' : σ} {t' : τ} (states : r.states s' t')
      (lasts : r.Lasts s s') : EndsWith s P (.error f, part, s') (.error f, part, t')
  | ok {a : α} {b : β} (part : δ) {s' : σ} {t' : τ} (states : r.states s' t')
      (lasts : r.Lasts s s') (results : P s' a b) :
      EndsWith s P (.ok a, part, s') (.ok b, part, t')

/-- Every operation ends alike on both hosts. -/
structure InStep [Host σ ω γ κ ρ] [Host τ ω' γ κ ρ] : Prop where
  findClass (name : String) {s : σ} {t : τ} (h : r.states s t) :
    r.Ends s (fun _ => Eq) (Host.findClass name s) (Host.findClass name t)
  findConstructor (cls : γ) (signature : Signature) {s : σ} {t : τ} (h : r.states s t) :
    r.Ends s (fun _ => Eq) (Host.findConstructor cls signature s)
      (Host.findConstructor cls signature t)
  newObject (cls : γ) (c : κ) {args : List (Arg ω)} {args' : List (Arg ω')} {s : σ} {t : τ}
    (h : r.states s t) (hargs : List.Forall₂ (Arg.Related (r.objects s)) args args') :
    r.Ends s r.objects (Host.newObject cls c args s) (Host.newObject cls c args' t)
  newInts (values : List Int32) {s : σ} {t : τ} (h : r.states s t) :
    r.Ends s r.objects (Host.newInts values s) (Host.newInts values t)
  newArray (cls : γ) {elements : List ω} {elements' : List ω'} {s : σ} {t : τ}
    (h : r.states s t) (helements : List.Forall₂ (r.objects s) elements elements') :
    r.Ends s r.objects (Host.newArray cls elements s) (Host.newArray cls elements' t)

variable {r}

theorem Lasts.refl (s : σ) : r.Lasts s s := fun _ _ h => h

theorem Lasts.trans {s s' s'' : σ} (h : r.Lasts s s') (h' : r.Lasts s' s'') : r.Lasts s s'' :=
  fun a b hab => h' a b (h a b hab)

theorem Lasts.elements {s s' : σ} (h : r.Lasts s s') {elements : List ω} {elements' : List ω'}
    (he : List.Forall₂ (r.objects s) elements elements') :
    List.Forall₂ (r.objects s') elements elements' :=
  he.imp fun _ _ hab => h _ _ hab

theorem Lasts.args {s s' : σ} (h : r.Lasts s s') {args : List (Arg ω)} {args' : List (Arg ω')}
    (hargs : List.Forall₂ (Arg.Related (r.objects s)) args args') :
    List.Forall₂ (Arg.Related (r.objects s')) args args' := by
  refine hargs.imp ?_
  rintro _ _ (s | x | hab)
  · exact .text s
  · exact .float x
  · exact .object (h _ _ hab)

theorem Ends.snd {s : σ} {P : σ → α → β → Prop} {x : Except (Fault ρ) α × σ}
    {y : Except (Fault ρ) β × τ} (h : r.Ends s P x y) : r.states x.2 y.2 ∧ r.Lasts s x.2 := by
  cases h with
  | error f states lasts => exact ⟨states, lasts⟩
  | ok states lasts results => exact ⟨states, lasts⟩

theorem EndsWith.snd {δ : Type} {s : σ} {P : σ → α → β → Prop} {x : Except (Fault ρ) α × δ × σ}
    {y : Except (Fault ρ) β × δ × τ} (h : r.EndsWith s P x y) :
    x.2.1 = y.2.1 ∧ r.states x.2.2 y.2.2 ∧ r.Lasts s x.2.2 := by
  cases h with
  | error f part states lasts => exact ⟨rfl, states, lasts⟩
  | ok part states lasts results => exact ⟨rfl, states, lasts⟩

/-- One operation follows another one. -/
theorem EndsWith.after {δ : Type} {s s' : σ} {P : σ → α → β → Prop} (h : r.Lasts s s')
    {x : Except (Fault ρ) α × δ × σ} {y : Except (Fault ρ) β × δ × τ}
    (hxy : r.EndsWith s' P x y) : r.EndsWith s P x y := by
  cases hxy with
  | error f part states lasts => exact .error f part states (h.trans lasts)
  | ok part states lasts results => exact .ok part states (h.trans lasts) results

end HostRelation

section

variable {σ τ ω ω' γ κ ρ : Type} [Host σ ω γ κ ρ] [Host τ ω' γ κ ρ]
  {r : HostRelation σ τ ω ω'} (hr : r.InStep) {s : σ} {t : τ} (hst : r.states s t)
include hr hst

namespace Handle

variable (h : Handle γ κ)

theorem resolve_inStep : r.EndsWith s (fun _ => Eq) (h.resolve s) (h.resolve t) := by
  unfold resolve
  cases h.resolved with
  | some found => exact .ok h hst (.refl s) rfl
  | none =>
    have hclass := hr.findClass h.className hst
    simp only
    generalize Host.findClass h.className s = x, Host.findClass h.className t = y at hclass
    cases hclass with
    | error f hst' hlast => exact .error f h hst' hlast
    | @ok cls _ s' t' hst' hlast heq =>
      subst heq
      have hconstructor := hr.findConstructor cls h.signature hst'
      simp only
      generalize Host.findConstructor cls h.signature s' = x,
        Host.findConstructor cls h.signature t' = y at hconstructor
      cases hconstructor with
      | error f hst'' hlast' => exact .error f h hst'' (hlast.trans hlast')
      | ok hst'' hlast' heq =>
        subst heq
        exact .ok _ hst'' (hlast.trans hlast') rfl

theorem create_inStep {args : List (Arg ω)} {args' : List (Arg ω')}
    (hargs : List.Forall₂ (Arg.Related (r.objects s)) args args') :
    r.EndsWith s r.objects (h.create args s) (h.create args' t) := by
  unfold create
  have hresolve := resolve_inStep hr hst h
  generalize h.resolve s = x, h.resolve t = y at hresolve
  cases hresolve with
  | error f h' hst' hlast => exact .error f h' hst' hlast
  | @ok found _ h' s' t' hst' hlast heq =>
    subst heq
    obtain ⟨cls, c⟩ := found
    have hnew := hr.newObject cls c hst' (hlast.args hargs)
    simp only
    generalize Host.newObject cls c args s' = x, Host.newObject cls c args' t' = y at hnew
    cases hnew with
    | error f hst'' hlast' => exact .error f h' hst'' (hlast.trans hlast')
    | ok hst'' hlast' hab => exact .ok h' hst'' (hlast.trans hlast') hab

theorem createArray_inStep {elements : List ω} {elements' : List ω'}
    (helements : List.Forall₂ (r.objects s) elements elements') :
    r.EndsWith s r.objects (h.createArray elements s) (h.createArray elements' t) := by
  unfold createArray
  have hresolve := resolve_inStep hr hst h
  generalize h.resolve s = x, h.resolve t = y at hresolve
  cases hresolve with
  | error f h' hst' hlast => exact .error f h' hst' hlast
  | @ok found _ h' s' t' hst' hlast heq =>
    subst heq
    obtain ⟨cls, c⟩ := found
    have hnew := hr.newArray cls hst' (hlast.elements helements)
    simp only
    generalize Host.newArray cls elements s' = x, Host.newArray cls elements' t' = y at hnew
    cases hnew with
    | error f hst'' hlast' => exact .error f h' hst'' (hlast.trans hlast')
    | ok hst'' hlast' hab => exact .ok h' hst'' (hlast.trans hlast') hab

end Handle

namespace HypothesisBuilder

variable (b : HypothesisBuilder γ κ)

theorem create_inStep (c : Candidate) :
    r.EndsWith s r.objects (b.create c s) (b.create c t) := by
  have hcreate := b.handle.create_inStep hr hst
    (.cons (.text c.text) (.cons (.float c.score) (.cons (.text c.features) .nil)))
  unfold create
  generalize b.handle.create _ s = x, b.handle.create _ t = y at hcreate
  cases hcreate with
  | error f h hst' hlast => exact .error f _ hst' hlast
  | ok h hst' hlast hab => exact .ok _ hst' hlast hab

theorem createAll_inStep (cs : List Candidate) :
    r.EndsWith s (fun s => List.Forall₂ (r.objects s)) (b.createAll cs s) (b.createAll cs t) := by
  induction cs generalizing b s t with
  | nil => exact .ok b hst (.refl s) .nil
  | cons c cs ih =>
    have hcreate := b.create_inStep hr hst c
    unfold createAll
    generalize b.create c s = x, b.create c t = y at hcreate
    cases hcreate with
    | error f b' hst' hlast => exact .error f b' hst' hlast
    | @ok a a' b' s' t' hst' hlast ha =>
      have hrest := ih hst' b'
      simp only
      generalize b'.createAll cs s' = x, b'.createAll cs t' = y at hrest
      cases hrest with
      | error f b'' hst'' hlast' => exact .error f b'' hst'' (hlast.trans hlast')
      | ok b'' hst'' hlast' has =>
        exact .ok b'' hst'' (hlast.trans hlast') (.cons (hlast' _ _ ha) has)

theorem newArray_inStep {elements : List ω} {elements' : List ω'}
    (helements : List.Forall₂ (r.objects s) elements elements') :
    r.EndsWith s r.objects (b.newArray elements s) (b.newArray elements' t) := by
  have harray := b.handle.createArray_inStep hr hst helements
  unfold newArray
  generalize b.handle.createArray elements s = x, b.handle.createArray elements' t = y at harray
  cases harray with
  | error f h hst' hlast => exact .error f _ hst' hlast
  | ok h hst' hlast hab => exact .ok _ hst' hlast hab

end HypothesisBuilder

theorem TranslationBuilder.build_inStep (b : TranslationBuilder γ κ) (text : String)
    {nbest alignment : ω} {nbest' alignment' : ω'} (hnbest : r.objects s nbest nbest')
    (halignment : r.objects s alignment alignment') (source : Option String) :
    r.EndsWith s r.objects (b.build text nbest alignment source s)
      (b.build text nbest' alignment' source t) := by
  cases source with
  | none =>
    have hcreate := b.narrow.create_inStep hr hst
      (.cons (.text text) (.cons (.object hnbest) (.cons (.object halignment) .nil)))
    unfold build create
    generalize b.narrow.create _ s = x, b.narrow.create _ t = y at hcreate
    cases hcreate with
    | error f h hst' hlast => exact .error f _ hst' hlast
    | ok h hst' hlast hab => exact .ok _ hst' hlast hab
  | some source =>
    have hcreate := b.extended.create_inStep hr hst (.cons (.text text)
      (.cons (.object hnbest) (.cons (.object halignment) (.cons (.text source) .nil))))
    simp only [build, createWithSource]
    generalize b.extended.create _ s = x, b.extended.create _ t = y at hcreate
    cases hcreate with
    | error f h hst' hlast => exact .error f _ hst' hlast
    | ok h hst' hlast hab => exact .ok _ hst' hlast hab

namespace Exporter

variable (e : Exporter γ κ)

theorem finish_inStep (text : String) {objects : List ω} {objects' : List ω'}
    (hobjects : List.Forall₂ (r.objects s) objects objects') (alignment : Alignment)
    (source : Option String) :
    r.EndsWith s r.objects (e.finish text objects alignment source s)
      (e.finish text objects' alignment source t) := by
  have harray := e.hypotheses.newArray_inStep hr hst hobjects
  unfold finish
  generalize e.hypotheses.newArray objects s = x, e.hypotheses.newArray objects' t = y at harray
  cases harray with
  | error f b hst' hlast => exact .error f _ hst' hlast
  | @ok nbest nbest' b s' t' hst' hlast hnbest =>
    have hints := hr.newInts alignment.flat hst'
    simp only
    generalize Host.newInts alignment.flat s' = x, Host.newInts alignment.flat t' = y at hints
    cases hints with
    | error f hst'' hlast' => exact .error f _ hst'' (hlast.trans hlast')
    | @ok ints ints' s'' t'' hst'' hlast' hints =>
      have hbuild := e.translations.build_inStep hr hst'' text (hlast' _ _ hnbest) hints source
      simp only
      generalize e.translations.build text nbest ints source s'' = x,
        e.translations.build text nbest' ints' source t'' = y at hbuild
      cases hbuild with
      | error f b' hst''' hlast'' => exact .error f _ hst''' ((hlast.trans hlast').trans hlast'')
      | ok b' hst''' hlast'' hab => exact .ok _ hst''' ((hlast.trans hlast').trans hlast'') hab

/-- A call ends alike on hosts that run in step. -/
theorem marshal_inStep (o : DecoderOutput) :
    r.EndsWith s r.objects (e.marshal o s) (e.marshal o t) := by
  unfold marshal
  cases Alignment.encode o.alignment with
  | error f => exact .error f e hst (.refl s)
  | ok alignment =>
    have hall := e.hypotheses.createAll_inStep hr hst o.nbest
    simp only
    generalize e.hypotheses.createAll o.nbest s = x, e.hypotheses.createAll o.nbest t = y at hall
    cases hall with
    | error f b hst' hlast => exact .error f _ hst' hlast
    | ok b hst' hlast hobjects =>
      exact .after hlast (finish_inStep hr hst' _ o.text hobjects alignment (e.sourceOf o))

end Exporter

end

end DecoderExport
