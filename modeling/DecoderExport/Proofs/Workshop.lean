import DecoderExport.Proofs.Asking
import DecoderExport.Proofs.Likeness
import Mathlib.Logic.Function.Basic

/-!
# Many handles and many models

A workshop holds object models, handles of their own, and exporters with their builders, and any of
them may be used with any model. A builder that stands alone is the builder of an exporter whose
other parts are not used. An operation settles the handles that it asks and leaves every other
handle as it was (`Workshop.handleAt_step`).
-/

namespace DecoderExport

/-- Something that a builder makes with what one of its handles has found. -/
inductive Build where
  | hypothesis (d : Candidate)
  | array (elements : List Value)
  | translation (text : String) (nbest alignment : Value) (source : Option String)

namespace Build

def role : Build → Role
  | hypothesis _ => .hypothesis
  | array _ => .hypothesis
  | translation _ _ _ source => .translation source

/-- What is built with a class and a constructor, under the given stamp. -/
def result (b : Build) (cls : ClassDef) (c : Constructor) (stamp : Nat) :
    Except (Fault Empty) Value :=
  match b with
  | hypothesis d => cls.make c stamp d.values
  | array elements => cls.gather stamp elements
  | translation text nbest alignment source =>
    cls.make c stamp (TranslationBuilder.values text nbest alignment source)

/-- The same, with the stamps of all arguments cleared. -/
def unstamped : Build → Build
  | hypothesis d => hypothesis d
  | array elements => array (elements.map Value.unstamped)
  | translation text nbest alignment source =>
    translation text nbest.unstamped alignment.unstamped source

/-- The arguments differ at most in which objects they are. -/
def Alike (b b' : Build) : Prop := b.unstamped = b'.unstamped

theorem role_unstamped (b : Build) : b.unstamped.role = b.role := by
  cases b <;> rfl

theorem Alike.role_eq {b b' : Build} (h : b.Alike b') : b.role = b'.role := by
  rw [← b.role_unstamped, h, b'.role_unstamped]

/-- A constructor that judges by value makes alike objects of alike arguments. -/
theorem Alike.result {b b' : Build} (h : b.Alike b') (cls : ClassDef) {c : Constructor}
    (hc : c.ByValue) (stamp stamp' : Nat) :
    AlikeReplies (b.result cls c stamp) (b'.result cls c stamp') := by
  unfold Alike at h
  cases b <;> cases b' <;> simp only [unstamped, reduceCtorEq, hypothesis.injEq, array.injEq,
    translation.injEq] at h
  case hypothesis.hypothesis d d' =>
    subst h
    exact ClassDef.make_alike rfl rfl stamp stamp'
  case array.array elements elements' => exact ClassDef.gather_alike h stamp stamp'
  case translation.translation text nbest alignment source text' nbest' alignment' source' =>
    obtain ⟨rfl, hn, ha, rfl⟩ := h
    have hargs : (TranslationBuilder.values text nbest alignment source).map Value.unstamped =
        (TranslationBuilder.values text nbest' alignment' source).map Value.unstamped := by
      cases source <;>
        simp only [TranslationBuilder.values, List.map_append, List.map_cons, hn, ha]
    exact ClassDef.make_alike hargs (hc.objection_eq hargs) stamp stamp'

/-- The same arguments make alike objects, whatever the validator looks at. -/
theorem result_alike (b : Build) (cls : ClassDef) (c : Constructor) (stamp stamp' : Nat) :
    AlikeReplies (b.result cls c stamp) (b.result cls c stamp') := by
  cases b with
  | hypothesis d => exact ClassDef.make_alike rfl rfl stamp stamp'
  | array elements => exact ClassDef.gather_alike rfl stamp stamp'
  | translation text nbest alignment source => exact ClassDef.make_alike rfl rfl stamp stamp'

end Build

/-- What an exporter or one of its builders is asked to do. -/
inductive Task where
  | resolveHypotheses
  | resolveTranslations
  | build (b : Build)
  | marshal (o : DecoderOutput)

namespace Exporter

variable (e : Exporter ClassDef Constructor)

def build : Build → World → Except (Fault Empty) Value × Exporter ClassDef Constructor × World
  | .hypothesis d, w =>
    let (reply, hypotheses, w) := e.hypotheses.create d w
    (reply, { e with hypotheses }, w)
  | .array elements, w =>
    let (reply, hypotheses, w) := e.hypotheses.newArray elements w
    (reply, { e with hypotheses }, w)
  | .translation text nbest alignment none, w =>
    let (reply, translations, w) := e.translations.create text nbest alignment w
    (reply, { e with translations }, w)
  | .translation text nbest alignment (some source), w =>
    let (reply, translations, w) := e.translations.createWithSource text nbest alignment source w
    (reply, { e with translations }, w)

def perform : Task → World → Exporter ClassDef Constructor × World
  | .resolveHypotheses, w =>
    let (_, hypotheses, w) := e.hypotheses.resolve w
    ({ e with hypotheses }, w)
  | .resolveTranslations, w =>
    let (_, translations, w) := e.translations.resolve w
    ({ e with translations }, w)
  | .build b, w => (e.build b w).2
  | .marshal o, w => (e.marshal o w).2

/-- The roles whose handles a task asks, in order. -/
def asks (m : ObjectModel) (stamp : Nat) : Task → List Role
  | .resolveHypotheses => [.hypothesis]
  | .resolveTranslations => [.narrow]
  | .build b => [b.role]
  | .marshal o => e.asked o m stamp

end Exporter

theorem Handle.create_eq (h : Handle ClassDef Constructor) (args : List (Arg Value)) (w : World) :
    (h.create args w).2.1 = h.settled w.model ∧
      ∀ cls c, h.resolved = some (cls, c) →
        (h.create args w).1 = cls.make c w.minted (args.map Arg.toValue) := by
  rw [Handle.create, Handle.resolve_eq]
  constructor
  · cases h.find w.model <;> rfl
  · intro cls c hr
    simp only [Handle.find_of_resolved hr, World.newObject_eq]

theorem Handle.createArray_eq (h : Handle ClassDef Constructor) (elements : List Value)
    (w : World) :
    (h.createArray elements w).2.1 = h.settled w.model ∧
      ∀ cls c, h.resolved = some (cls, c) →
        (h.createArray elements w).1 = cls.gather w.minted elements := by
  rw [Handle.createArray, Handle.resolve_eq]
  constructor
  · cases h.find w.model <;> rfl
  · intro cls c hr
    simp only [Handle.find_of_resolved hr, World.newArray_eq]

namespace Exporter

variable (e : Exporter ClassDef Constructor)

theorem fst_build {b : Build} {cls : ClassDef} {c : Constructor}
    (hr : (e.handle b.role).resolved = some (cls, c)) (w : World) :
    (e.build b w).1 = b.result cls c w.minted := by
  cases b with
  | hypothesis d => exact (Handle.create_eq _ d.args w).2 cls c hr
  | array elements => exact (Handle.createArray_eq _ elements w).2 cls c hr
  | translation text nbest alignment source =>
    cases source with
    | none => exact (Handle.create_eq e.translations.narrow _ w).2 cls c hr
    | some source => exact (Handle.create_eq e.translations.extended _ w).2 cls c hr

theorem handle_build (b : Build) (w : World) (role : Role) :
    (e.build b w).2.1.handle role =
      if role = b.role then (e.handle role).settled w.model else e.handle role := by
  cases b with
  | hypothesis d => cases role <;> first | rfl | exact (Handle.create_eq _ d.args w).1
  | array elements => cases role <;> first | rfl | exact (Handle.createArray_eq _ elements w).1
  | translation text nbest alignment source =>
    cases source with
    | none => cases role <;> first | rfl | exact (Handle.create_eq e.translations.narrow _ w).1
    | some source =>
      cases role <;> first | rfl | exact (Handle.create_eq e.translations.extended _ w).1

theorem handle_perform (t : Task) (w : World) (role : Role) :
    (e.perform t w).1.handle role =
      if role ∈ e.asks w.model w.minted t then (e.handle role).settled w.model
      else e.handle role := by
  cases t with
  | resolveHypotheses =>
    cases role <;> simp [perform, asks, handle, HypothesisBuilder.resolve, Handle.resolve_eq]
  | resolveTranslations =>
    cases role <;> simp [perform, asks, handle, TranslationBuilder.resolve, Handle.resolve_eq]
  | build b => simp only [perform, asks, List.mem_singleton, handle_build]
  | marshal o =>
    change (e.marshal o w).2.1.handle role = if role ∈ e.asked o w.model w.minted then _ else _
    rw [exporter_marshal, handle_afterwards]

end Exporter

/-- Object models, handles and exporters by number, and the number of objects made so far. -/
structure Workshop where
  models : Nat → ObjectModel
  minted : Nat
  handles : Nat → Handle ClassDef Constructor
  exporters : Nat → Exporter ClassDef Constructor

/-- Where a handle is: by itself, or in the exporter with a number. -/
inductive Place where
  | alone (i : Nat)
  | part (i : Nat) (role : Role)
  deriving DecidableEq

namespace Workshop

inductive Op where
  | register (model : Nat) (cls : ClassDef)
  | findClass (model : Nat) (name : String)
  | findConstructor (model : Nat) (cls : ClassDef) (signature : Signature)
  | resolve (model : Nat) (i : Nat)
  | perform (model : Nat) (i : Nat) (t : Task)

def Op.model : Op → Nat
  | register model _ => model
  | findClass model _ => model
  | findConstructor model _ _ => model
  | resolve model _ => model
  | perform model _ _ => model

/-- A workshop in which nothing has been looked up. -/
def start (models : Nat → ObjectModel) (minted : Nat) (names : Nat → String × Signature)
    (configs : Nat → Config) : Workshop where
  models
  minted
  handles i := { className := (names i).1, signature := (names i).2 }
  exporters i := .ofConfig (configs i)

def handleAt (s : Workshop) : Place → Handle ClassDef Constructor
  | .alone i => s.handles i
  | .part i role => (s.exporters i).handle role

def world (s : Workshop) (model : Nat) : World := ⟨s.models model, s.minted⟩

/-- The workshop after a model has become another world. -/
def put (s : Workshop) (model : Nat) (w : World) : Workshop :=
  { s with models := Function.update s.models model w.model, minted := w.minted }

def step (s : Workshop) : Op → Workshop
  | .register model cls =>
    { s with models := Function.update s.models model ((s.models model).register cls) }
  | .findClass model name => s.put model (Host.findClass name (s.world model)).2
  | .findConstructor model cls signature =>
    s.put model (Host.findConstructor cls signature (s.world model)).2
  | .resolve model i =>
    let (_, h, w) := (s.handles i).resolve (s.world model)
    { s.put model w with handles := Function.update s.handles i h }
  | .perform model i t =>
    let (e, w) := (s.exporters i).perform t (s.world model)
    { s.put model w with exporters := Function.update s.exporters i e }

def run (s : Workshop) (ops : List Op) : Workshop := ops.foldl step s

/-- What a builder answers that is asked to make something with a model. -/
def reply (s : Workshop) (model i : Nat) (b : Build) : Except (Fault Empty) Value :=
  ((s.exporters i).build b (s.world model)).1

/-- The places of the handles that an operation resolves, in order. -/
def asked (s : Workshop) : Op → List Place
  | .resolve _ i => [.alone i]
  | .perform model i t =>
    ((s.exporters i).asks (s.models model) s.minted t).map (Place.part i)
  | _ => []

variable (s : Workshop)

theorem handleAt_step (op : Op) (p : Place) :
    (s.step op).handleAt p =
      if p ∈ s.asked op then (s.handleAt p).settled (s.models op.model) else s.handleAt p := by
  cases op with
  | register model cls => rfl
  | findClass model name => rfl
  | findConstructor model cls signature => rfl
  | resolve model i =>
    cases p with
    | part j role => rfl
    | alone j =>
      simp only [step, handleAt, asked, Handle.resolve_eq, List.mem_singleton, Place.alone.injEq]
      by_cases hj : j = i
      · subst hj
        rw [Function.update_self, if_pos rfl]
        rfl
      · rw [Function.update_of_ne hj, if_neg hj]
  | perform model i t =>
    cases p with
    | alone j => simp [step, handleAt, asked, put]
    | part j role =>
      by_cases hj : j = i
      · subst hj
        have hmem : Place.part j role ∈ s.asked (.perform model j t) ↔
            role ∈ (s.exporters j).asks (s.models model) s.minted t := by
          simp [asked]
        simp only [step, handleAt, Function.update_self, Exporter.handle_perform, if_congr hmem]
        rfl
      · simp only [step, handleAt, Function.update_of_ne hj]
        rw [if_neg]
        simp [asked, Ne.symm hj]

theorem run_append (ops ops' : List Op) : s.run (ops ++ ops') = (s.run ops).run ops' :=
  List.foldl_append

end Workshop

end DecoderExport
