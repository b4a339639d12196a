import DecoderExport.Objects.Model
import DecoderExport.Proofs.HostRelation
import Mathlib.Data.Option.Basic
import Mathlib.Logic.Function.Basic

/-!
# Values in circulation

A bench has a host, exporters with their builders, and the values that have been obtained so far. An
operation takes its arguments from these values, by number, and what it gives is put to them. So
what is read out of one object may become part of another one, any number of times, under classes
that are replaced in between.

A bench can stand on any host whose objects can be read. On two hosts that run in step the same
operations obtain related values (`Bench.Related.run`).
-/

namespace DecoderExport

/-- A host whose objects can be read and whose object model can be changed from outside. -/
class Stand (σ : Type) (ω : outParam Type) extends Host σ ω ClassDef Constructor Empty where
  amend : (ObjectModel → ObjectModel) → σ → σ
  field? : ω → String → σ → Option ω
  element? : ω → Nat → σ → Option ω

instance : Stand World Value where
  amend f w := { w with model := f w.model }
  field? v name _ := v.field? name
  element? v index _ := v.elements?.bind fun elements => elements[index]?

/-- What can be done with the values that have been obtained. -/
inductive Op where
  /-- It is the turn of another object model, with the classes that it knows. -/
  | turn (m : ObjectModel)
  | register (cls : ClassDef)
  | findClass (name : String)
  | findConstructor (cls : ClassDef) (signature : Signature)
  | newInts (values : List Int32)
  | newArray (cls : ClassDef) (elements : List Nat)
  /-- The constructor need not be one of the class. -/
  | newObject (cls : ClassDef) (c : Constructor) (args : List (Arg Nat))
  | resolveHypotheses (exporter : Nat)
  | resolveTranslations (exporter : Nat)
  | hypothesis (exporter : Nat) (d : Candidate)
  | hypotheses (exporter : Nat) (elements : List Nat)
  | translation (exporter : Nat) (text : String) (nbest alignment : Nat) (source : Option String)
  | marshal (exporter : Nat) (o : DecoderOutput)
  | field (value : Nat) (name : String)
  | element (value index : Nat)

/-- The argument with the object that a number stands for. -/
def Arg.pick? {ω : Type} (obtained : List ω) : Arg Nat → Option (Arg ω)
  | .text s => some (.text s)
  | .float x => some (.float x)
  | .object n => obtained[n]?.map .object

/-- A host, exporters by number, and the values obtained so far. -/
structure Bench (σ ω : Type) where
  host : σ
  exporters : Nat → Exporter ClassDef Constructor
  obtained : List ω

namespace Bench

variable {σ τ ω ω' : Type}

/-- A bench with nothing obtained and nothing looked up yet. -/
def start (host : σ) (configs : Nat → Config) : Bench σ ω :=
  ⟨host, fun i => .ofConfig (configs i), []⟩

/-- The bench after an exporter has been used. -/
def settle (b : Bench σ ω) (i : Nat) (e : Exporter ClassDef Constructor) (s : σ) : Bench σ ω :=
  { b with host := s, exporters := Function.update b.exporters i e }

/-- The bench with one more value, if there is one. -/
def obtain (b : Bench σ ω) (value : Option ω) : Bench σ ω :=
  { b with obtained := b.obtained ++ value.toList }

/-- The bench after an operation. Nothing happens if a number stands for no value. -/
def step [Stand σ ω] (b : Bench σ ω) : Op → Bench σ ω
  | .turn m => { b with host := Stand.amend (fun _ => m) b.host }
  | .register cls => { b with host := Stand.amend (·.register cls) b.host }
  | .findClass name => { b with host := (Host.findClass name b.host).2 }
  | .findConstructor cls signature =>
    { b with host := (Host.findConstructor cls signature b.host).2 }
  | .newInts values =>
    let (reply, s) := Host.newInts values b.host
    { b with host := s }.obtain reply.toOption
  | .newArray cls elements =>
    match elements.mapM (b.obtained[·]?) with
    | none => b
    | some elements =>
      let (reply, s) := Host.newArray cls elements b.host
      { b with host := s }.obtain reply.toOption
  | .newObject cls c args =>
    match args.mapM (Arg.pick? b.obtained) with
    | none => b
    | some args =>
      let (reply, s) := Host.newObject cls c args b.host
      { b with host := s }.obtain reply.toOption
  | .resolveHypotheses i =>
    let (_, hypotheses, s) := (b.exporters i).hypotheses.resolve b.host
    b.settle i { b.exporters i with hypotheses } s
  | .resolveTranslations i =>
    let (_, translations, s) := (b.exporters i).translations.resolve b.host
    b.settle i { b.exporters i with translations } s
  | .hypothesis i d =>
    let (reply, hypotheses, s) := (b.exporters i).hypotheses.create d b.host
    (b.settle i { b.exporters i with hypotheses } s).obtain reply.toOption
  | .hypotheses i elements =>
    match elements.mapM (b.obtained[·]?) with
    | none => b
    | some elements =>
      let (reply, hypotheses, s) := (b.exporters i).hypotheses.newArray elements b.host
      (b.settle i { b.exporters i with hypotheses } s).obtain reply.toOption
  | .translation i text nbest alignment source =>
    match b.obtained[nbest]?, b.obtained[alignment]? with
    | some nbest, some alignment =>
      let (reply, translations, s) :=
        (b.exporters i).translations.build text nbest alignment source b.host
      (b.settle i { b.exporters i with translations } s).obtain reply.toOption
    | _, _ => b
  | .marshal i o =>
    let (reply, e, s) := (b.exporters i).marshal o b.host
    (b.settle i e s).obtain reply.toOption
  | .field value name => b.obtain (b.obtained[value]?.bind (Stand.field? · name b.host))
  | .element value index => b.obtain (b.obtained[value]?.bind (Stand.element? · index b.host))

/-- The bench after some operations. -/
def run [Stand σ ω] (b : Bench σ ω) (ops : List Op) : Bench σ ω := ops.foldl step b

end Bench

/-! ### Two benches -/

section

variable {α β γ : Type} {R : β → γ → Prop}

theorem rel_getElem? {xs : List β} {ys : List γ} (h : List.Forall₂ R xs ys) (n : Nat) :
    Option.Rel R xs[n]? ys[n]? := by
  induction h generalizing n with
  | nil => exact .none
  | cons hxy _ ih =>
    cases n with
    | zero => exact .some hxy
    | succ n => exact ih n

theorem rel_mapM {f : α → Option β} {g : α → Option γ} (h : ∀ a, Option.Rel R (f a) (g a))
    (as : List α) : Option.Rel (List.Forall₂ R) (as.mapM f) (as.mapM g) := by
  induction as with
  | nil => exact .some .nil
  | cons a as ih =>
    have ha := h a
    simp only [List.mapM_cons]
    generalize f a = x, g a = y at ha
    generalize as.mapM f = xs, as.mapM g = ys at ih
    cases ha with
    | none => exact .none
    | some hxy =>
      cases ih with
      | none => exact .none
      | some hrest => exact .some (.cons hxy hrest)

theorem rel_bind {β' γ' : Type} {R' : β' → γ' → Prop} {x : Option β} {y : Option γ}
    (h : Option.Rel R x y) {f : β → Option β'} {g : γ → Option γ'}
    (hfg : ∀ a b, R a b → Option.Rel R' (f a) (g b)) : Option.Rel R' (x.bind f) (y.bind g) := by
  cases h with
  | none => exact .none
  | some hab => exact hfg _ _ hab

end

theorem Arg.rel_pick? {ω ω' : Type} {Q : ω → ω' → Prop} {xs : List ω} {ys : List ω'}
    (h : List.Forall₂ Q xs ys) (a : Arg Nat) :
    Option.Rel (Arg.Related Q) (a.pick? xs) (a.pick? ys) := by
  cases a with
  | text s => exact .some (.text s)
  | float x => exact .some (.float x)
  | object n =>
    have hn := rel_getElem? h n
    simp only [pick?]
    generalize xs[n]? = x, ys[n]? = y at hn
    cases hn with
    | none => exact .none
    | some hxy => exact .some (.object hxy)

/-- Two hosts that run in step also read alike, and go on in step with other object models. -/
structure HostRelation.ReadsAlike {σ τ ω ω' : Type} [Stand σ ω] [Stand τ ω']
    (r : HostRelation σ τ ω ω') : Prop extends r.InStep where
  amend (f : ObjectModel → ObjectModel) {s : σ} {t : τ} (h : r.states s t) :
    r.states (Stand.amend f s) (Stand.amend f t) ∧ r.Lasts s (Stand.amend f s)
  field? (name : String) {a : ω} {b : ω'} {s : σ} {t : τ} (h : r.states s t)
    (hab : r.objects s a b) :
    Option.Rel (r.objects s) (Stand.field? a name s) (Stand.field? b name t)
  element? (index : Nat) {a : ω} {b : ω'} {s : σ} {t : τ} (h : r.states s t)
    (hab : r.objects s a b) :
    Option.Rel (r.objects s) (Stand.element? a index s) (Stand.element? b index t)

namespace Bench

variable {σ τ ω ω' : Type} {r : HostRelation σ τ ω ω'} {b : Bench σ ω} {b' : Bench τ ω'}

/-- Two benches on related hosts with the same exporters and related values. -/
structure Related (r : HostRelation σ τ ω ω') (b : Bench σ ω) (b' : Bench τ ω') : Prop where
  exporters : b.exporters = b'.exporters
  hosts : r.states b.host b'.host
  obtained : List.Forall₂ (r.objects b.host) b.obtained b'.obtained

theorem related_start {s : σ} {t : τ} (h : r.states s t) (configs : Nat → Config) :
    Related r (start s configs) (start t configs) :=
  ⟨rfl, h, .nil⟩

/-- The hosts alone have gone on. -/
theorem Related.proceed (h : Related r b b') {s : σ} {t : τ} (hst : r.states s t)
    (hlast : r.Lasts b.host s) : Related r { b with host := s } { b' with host := t } :=
  ⟨h.exporters, hst, hlast.elements h.obtained⟩

theorem Related.settle (h : Related r b b') {s : σ} {t : τ} (hst : r.states s t)
    (hlast : r.Lasts b.host s) (i : Nat) (e : Exporter ClassDef Constructor) :
    Related r (b.settle i e s) (b'.settle i e t) := by
  refine ⟨?_, hst, hlast.elements h.obtained⟩
  simp only [Bench.settle, h.exporters]

theorem Related.obtain (h : Related r b b') {x : Option ω} {y : Option ω'}
    (hxy : Option.Rel (r.objects b.host) x y) : Related r (b.obtain x) (b'.obtain y) := by
  refine ⟨h.exporters, h.hosts, List.rel_append h.obtained ?_⟩
  cases hxy with
  | none => exact .nil
  | some hab => exact .cons hab .nil

/-- An operation of the hosts. -/
theorem Related.reply (h : Related r b b') {x : Reply σ Empty ω} {y : Reply τ Empty ω'}
    (hxy : r.Ends b.host r.objects x y) :
    Related r ({ b with host := x.2 }.obtain x.1.toOption)
      ({ b' with host := y.2 }.obtain y.1.toOption) := by
  cases hxy with
  | error f hst hlast => exact (h.proceed hst hlast).obtain .none
  | ok hst hlast hab => exact (h.proceed hst hlast).obtain (.some hab)

/-- An operation of an exporter or of a part of it. -/
theorem Related.answer {δ : Type} (h : Related r b b') {x : Except (Fault Empty) ω × δ × σ}
    {y : Except (Fault Empty) ω' × δ × τ} (hxy : r.EndsWith b.host r.objects x y) (i : Nat)
    (put : δ → Exporter ClassDef Constructor) :
    Related r ((b.settle i (put x.2.1) x.2.2).obtain x.1.toOption)
      ((b'.settle i (put y.2.1) y.2.2).obtain y.1.toOption) := by
  cases hxy with
  | error f part hst hlast => exact (h.settle hst hlast i _).obtain .none
  | ok part hst hlast hab => exact (h.settle hst hlast i _).obtain (.some hab)

variable [Stand σ ω] [Stand τ ω'] (hr : r.ReadsAlike)
include hr

/-- The same operation obtains related values, or nothing on either bench. -/
theorem Related.step (h : Related r b b') (op : Op) : Related r (b.step op) (b'.step op) := by
  have hin := hr.toInStep
  have hst := h.hosts
  have hexporter (i : Nat) : b'.exporters i = b.exporters i := by rw [h.exporters]
  cases op with
  | turn m =>
    obtain ⟨hst', hlast⟩ := hr.amend (fun _ => m) hst
    exact h.proceed hst' hlast
  | register cls =>
    obtain ⟨hst', hlast⟩ := hr.amend (·.register cls) hst
    exact h.proceed hst' hlast
  | findClass name =>
    obtain ⟨hst', hlast⟩ := (hin.findClass name hst).snd
    exact h.proceed hst' hlast
  | findConstructor cls signature =>
    obtain ⟨hst', hlast⟩ := (hin.findConstructor cls signature hst).snd
    exact h.proceed hst' hlast
  | newInts values => exact h.reply (hin.newInts values hst)
  | newArray cls elements =>
    have helements := rel_mapM (rel_getElem? h.obtained) elements
    simp only [Bench.step]
    generalize elements.mapM (b.obtained[·]?) = x, elements.mapM (b'.obtained[·]?) = y at helements
    cases helements with
    | none => exact h
    | some helements => exact h.reply (hin.newArray cls hst helements)
  | newObject cls c args =>
    have hargs := rel_mapM (Arg.rel_pick? h.obtained) args
    simp only [Bench.step]
    generalize args.mapM (Arg.pick? b.obtained) = x, args.mapM (Arg.pick? b'.obtained) = y at hargs
    cases hargs with
    | none => exact h
    | some hargs => exact h.reply (hin.newObject cls c hst hargs)
  | resolveHypotheses i =>
    obtain ⟨hpart, hst', hlast⟩ :=
      ((b.exporters i).hypotheses.handle.resolve_inStep hin hst).snd
    simp only [Bench.step, hexporter, HypothesisBuilder.resolve, hpart]
    exact h.settle hst' hlast i _
  | resolveTranslations i =>
    obtain ⟨hpart, hst', hlast⟩ :=
      ((b.exporters i).translations.narrow.resolve_inStep hin hst).snd
    simp only [Bench.step, hexporter, TranslationBuilder.resolve, hpart]
    exact h.settle hst' hlast i _
  | hypothesis i d =>
    simp only [Bench.step, hexporter]
    exact h.answer ((b.exporters i).hypotheses.create_inStep hin hst d) i
      fun hypotheses => { b.exporters i with hypotheses }
  | hypotheses i elements =>
    have helements := rel_mapM (rel_getElem? h.obtained) elements
    simp only [Bench.step, hexporter]
    generalize elements.mapM (b.obtained[·]?) = x, elements.mapM (b'.obtained[·]?) = y at helements
    cases helements with
    | none => exact h
    | some helements =>
      exact h.answer ((b.exporters i).hypotheses.newArray_inStep hin hst helements) i
        fun hypotheses => { b.exporters i with hypotheses }
  | translation i text nbest alignment source =>
    have hnbest := rel_getElem? h.obtained nbest
    have halignment := rel_getElem? h.obtained alignment
    simp only [Bench.step, hexporter]
    generalize b.obtained[nbest]? = x, b'.obtained[nbest]? = y at hnbest
    generalize b.obtained[alignment]? = x', b'.obtained[alignment]? = y' at halignment
    cases hnbest with
    | none => exact h
    | some hnbest =>
      cases halignment with
      | none => exact h
      | some halignment =>
        exact h.answer
          ((b.exporters i).translations.build_inStep hin hst text hnbest halignment source) i
          fun translations => { b.exporters i with translations }
  | marshal i o =>
    simp only [Bench.step, hexporter]
    exact h.answer ((b.exporters i).marshal_inStep hin hst o) i id
  | field value name =>
    exact h.obtain (rel_bind (rel_getElem? h.obtained value) fun _ _ hab => hr.field? name hst hab)
  | element value index =>
    exact h.obtain (rel_bind (rel_getElem? h.obtained value) fun _ _ hab =>
      hr.element? index hst hab)

theorem Related.run (h : Related r b b') (ops : List Op) : Related r (b.run ops) (b'.run ops) := by
  induction ops generalizing b b' with
  | nil => exact h
  | cons op ops ih => exact ih (h.step hr op)

end Bench

end DecoderExport
