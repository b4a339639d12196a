import DecoderExport.Proofs.AlignmentCodec
import DecoderExport.Proofs.HostMap
import DecoderExport.Proofs.Session

/-!
# The lookups are accounted for

A tally is a world in which the lookups that succeed are counted as well as all of them. In every
run of one exporter on one model the four counters are fixed by the handles that are resolved and by
the linkage errors so far (`Ledger.lookups_accounted`). The exporter does not notice the counting
(`Ledger.session_run`).
-/

namespace DecoderExport

/-- Whether a class was found, but not the constructor that was asked for. -/
def Fault.lacksConstructor {ρ : Type} : Fault ρ → Bool
  | .linkage _ signature _ => signature ≠ ""
  | _ => false

def failsWith {α : Type} (p : Fault Empty → Bool) : Except (Fault Empty) α → Bool
  | .error f => p f
  | .ok _ => false

theorem Signature.display_ne_empty (s : Signature) : s.display ≠ "" := by
  intro h
  have hlist := congrArg String.toList h
  simp [display] at hlist

def TranslationBuilder.found (b : TranslationBuilder ClassDef Constructor) : Nat :=
  b.narrow.isResolved.toNat + b.extended.isResolved.toNat

/-- The number of handles of an exporter that have found their constructor. -/
def Exporter.found (e : Exporter ClassDef Constructor) : Nat :=
  e.hypotheses.handle.isResolved.toNat + e.translations.found

theorem Exporter.found_le (e : Exporter ClassDef Constructor) : e.found ≤ 3 := by
  have h := Bool.toNat_le e.hypotheses.handle.isResolved
  have hn := Bool.toNat_le e.translations.narrow.isResolved
  have he := Bool.toNat_le e.translations.extended.isResolved
  unfold found TranslationBuilder.found
  omega

/-- A world and the numbers of lookups in it that have succeeded. -/
structure Tally where
  world : World
  classesFound : Nat
  constructorsFound : Nat

namespace Tally

instance : Host Tally Value ClassDef Constructor Empty where
  findClass name t :=
    let (reply, world) := t.world.findClass name
    (reply, { t with world, classesFound := t.classesFound + reply.isOk.toNat })
  findConstructor cls signature t :=
    let (reply, world) := t.world.findConstructor cls signature
    (reply, { t with world, constructorsFound := t.constructorsFound + reply.isOk.toNat })
  newObject cls c args t :=
    let (reply, world) := t.world.newObject cls c args
    (reply, { t with world })
  newInts values t :=
    let (reply, world) := t.world.newInts values
    (reply, { t with world })
  newArray cls elements t :=
    let (reply, world) := t.world.newArray cls elements
    (reply, { t with world })

theorem respects_world : Host.Respects world where
  findClass _ _ := rfl
  findConstructor _ _ _ := rfl
  newObject _ _ _ _ := rfl
  newInts _ _ := rfl
  newArray _ _ _ := rfl

/-- How the counters have moved while the number of resolved handles went from `held` to `held'`
and a reply came back. -/
structure Accounts {α : Type} (before after : Tally) (held held' : Nat)
    (reply : Except (Fault Empty) α) : Prop where
  classLookups : after.world.model.classLookups + held =
    before.world.model.classLookups + held' + (failsWith Fault.isLinkage reply).toNat
  constructorLookups : after.world.model.constructorLookups + held =
    before.world.model.constructorLookups + held' + (failsWith Fault.lacksConstructor reply).toNat
  classesFound : after.classesFound + held =
    before.classesFound + held' + (failsWith Fault.lacksConstructor reply).toNat
  constructorsFound : after.constructorsFound + held = before.constructorsFound + held'

namespace Accounts

variable {α β : Type} {t t' t'' : Tally} {n n' n'' : Nat}

theorem trans {a : α} {reply : Except (Fault Empty) β}
    (h : Accounts t t' n n' (.ok a : Except (Fault Empty) α)) (h' : Accounts t' t'' n' n'' reply) :
    Accounts t t'' n n'' reply := by
  obtain ⟨h₁, h₂, h₃, h₄⟩ := h
  obtain ⟨h₁', h₂', h₃', h₄'⟩ := h'
  simp only [failsWith, Bool.toNat_false] at h₁ h₂ h₃
  constructor <;> omega

theorem add_left {reply : Except (Fault Empty) α} (h : Accounts t t' n n' reply) (k : Nat) :
    Accounts t t' (k + n) (k + n') reply := by
  obtain ⟨h₁, h₂, h₃, h₄⟩ := h
  constructor <;> omega

theorem add_right {reply : Except (Fault Empty) α} (h : Accounts t t' n n' reply) (k : Nat) :
    Accounts t t' (n + k) (n' + k) reply := by
  obtain ⟨h₁, h₂, h₃, h₄⟩ := h
  constructor <;> omega

theorem error {f : Fault Empty} (h : Accounts t t' n n' (.error f : Except (Fault Empty) α)) :
    Accounts t t' n n' (.error f : Except (Fault Empty) β) :=
  ⟨h.1, h.2, h.3, h.4⟩

/-- Nothing was looked up, and no lookup is blamed. -/
theorem of_eq {reply : Except (Fault Empty) α} {w : World} (hw : w.model = t.world.model)
    (hl : failsWith Fault.isLinkage reply = false) (n : Nat) :
    Accounts t { t with world := w } n n reply := by
  have hc : failsWith Fault.lacksConstructor reply = false := by
    rcases reply with f | a
    · cases f <;> first | rfl | cases hl
    · rfl
  constructor <;> simp [hw, hl, hc]

end Accounts

variable (cls : ClassDef) (c : Constructor)

theorem newObject_accounts (args : List (Arg Value)) (t : Tally) (n : Nat) :
    Accounts t (Host.newObject cls c args t).2 n n (Host.newObject cls c args t).1 := by
  have hquiet : (t.world.newObject cls c args).2.model = t.world.model ∧
      failsWith Fault.isLinkage (t.world.newObject cls c args).1 = false := by
    simp only [World.newObject]
    split <;> exact ⟨rfl, rfl⟩
  exact Accounts.of_eq hquiet.1 hquiet.2 n

theorem newArray_accounts (elements : List Value) (t : Tally) (n : Nat) :
    Accounts t (Host.newArray cls elements t).2 n n (Host.newArray cls elements t).1 := by
  have hquiet : (t.world.newArray cls elements).2.model = t.world.model ∧
      failsWith Fault.isLinkage (t.world.newArray cls elements).1 = false := by
    simp only [World.newArray]
    split <;> exact ⟨rfl, rfl⟩
  exact Accounts.of_eq hquiet.1 hquiet.2 n

theorem newInts_accounts (values : List Int32) (t : Tally) (n : Nat) :
    Accounts t (Host.newInts values t).2 n n (Host.newInts values t).1 :=
  Accounts.of_eq (w := t.world.mint) rfl rfl n

theorem newObjects_accounts (argss : List (List (Arg Value))) (t : Tally) (n : Nat) :
    Accounts t (Host.newObjects cls c argss t).2 n n (Host.newObjects cls c argss t).1 := by
  induction argss generalizing t with
  | nil => exact .of_eq rfl rfl n
  | cons args argss ih =>
    have hfirst := newObject_accounts cls c args t n
    simp only [Host.newObjects]
    rcases hv : Host.newObject cls c args t with ⟨f | v, t'⟩
    · rw [hv] at hfirst
      exact hfirst.error
    · rw [hv] at hfirst
      have hrest := hfirst.trans (ih t')
      simp only
      rcases hvs : Host.newObjects cls c argss t' with ⟨f | vs, t''⟩
      · rw [hvs] at hrest
        exact hrest.error
      · rw [hvs] at hrest
        exact ⟨hrest.1, hrest.2, hrest.3, hrest.4⟩

end Tally

open Tally (Accounts)

/-- A handle pays two lookups for what it keeps, one for a class that is missing, and two for a
constructor that is missing. -/
theorem Handle.resolve_accounts (h : Handle ClassDef Constructor) (t : Tally) :
    Accounts t (h.resolve t).2.2 h.isResolved.toNat (h.resolve t).2.1.isResolved.toNat
      (h.resolve t).1 := by
  cases hr : h.resolved with
  | some found =>
    rw [resolve_of_resolved hr]
    exact .of_eq rfl rfl _
  | none =>
    simp only [resolve, isResolved, hr, Host.findClass, Host.findConstructor, World.findClass,
      World.findConstructor]
    cases hm : t.world.model.class? h.className with
    | none =>
      constructor <;> simp [hr, failsWith, Fault.isLinkage, Fault.lacksConstructor, Except.isOk,
        Except.toBool]
    | some cls =>
      cases hc : cls.constructor? h.signature with
      | none =>
        constructor <;> simp [hr, hc, failsWith, Fault.isLinkage, Fault.lacksConstructor,
          Signature.display_ne_empty, Except.isOk, Except.toBool]
      | some c =>
        constructor <;> simp [hc, failsWith, Except.isOk, Except.toBool]

theorem Handle.create_accounts (h : Handle ClassDef Constructor) (args : List (Arg Value))
    (t : Tally) :
    Accounts t (h.create args t).2.2 h.isResolved.toNat (h.create args t).2.1.isResolved.toNat
      (h.create args t).1 := by
  have hresolve := h.resolve_accounts t
  unfold create
  rcases hr : h.resolve t with ⟨f | ⟨cls, c⟩, h', t'⟩
  · rw [hr] at hresolve
    exact hresolve.error
  · rw [hr] at hresolve
    exact hresolve.trans (Tally.newObject_accounts cls c args t' _)

theorem TranslationBuilder.build_accounts (b : TranslationBuilder ClassDef Constructor)
    (text : String) (nbest alignment : Value) (source : Option String) (t : Tally) :
    let after := b.build text nbest alignment source t
    Accounts t after.2.2 b.found after.2.1.found after.1 := by
  cases source with
  | none => exact (b.narrow.create_accounts _ t).add_right _
  | some source => exact (b.extended.create_accounts _ t).add_left _

namespace Exporter

variable (e : Exporter ClassDef Constructor)

theorem finish_accounts {cls : ClassDef} {c : Constructor}
    (hr : e.hypotheses.handle.resolved = some (cls, c)) (text : String) (objects : List Value)
    (alignment : Alignment) (source : Option String) (t : Tally) :
    let after := e.finish text objects alignment source t
    Accounts t after.2.2 e.found after.2.1.found after.1 := by
  have harray := Tally.newArray_accounts cls objects t e.found
  simp only [finish, HypothesisBuilder.newArray, Handle.createArray,
    Handle.resolve_of_resolved hr]
  rcases ha : Host.newArray cls objects t with ⟨f | nbest, t'⟩
  · rw [ha] at harray
    -- the handles are as before, and the fault is no linkage error
    exact harray
  · rw [ha] at harray
    have hints := Tally.newInts_accounts alignment.flat t' e.found
    simp only
    rcases hi : Host.newInts alignment.flat t' with ⟨f | ints, t''⟩
    · rw [hi] at hints
      exact harray.trans hints
    · rw [hi] at hints
      exact harray.trans (hints.trans
        ((e.translations.build_accounts text nbest ints source t'').add_left _))

/-- The handles that a call asks and the error that it returns account for all its lookups. -/
theorem marshal_accounts (o : DecoderOutput) (t : Tally) :
    let after := e.marshal o t
    Accounts t after.2.2 e.found after.2.1.found after.1 := by
  rw [marshal_staged]
  cases ha : (Alignment.encode o.alignment : Except (Fault Empty) Alignment) with
  | error f =>
    obtain ⟨k, p, side, -, rfl, -⟩ := Alignment.encode_error ha
    exact .of_eq rfl rfl _
  | ok alignment =>
    -- the only lookups are those of the first handle and, in `finish`, of one other
    have hresolve := (e.hypotheses.handle.resolve_accounts t).add_right e.translations.found
    simp only
    rcases hr : e.hypotheses.handle.resolve t with ⟨f | ⟨cls, c⟩, h, t'⟩
    · rw [hr] at hresolve
      exact hresolve.error
    · rw [hr] at hresolve
      have hobjects := hresolve.trans
        (Tally.newObjects_accounts cls c (o.nbest.map Candidate.args) t' _)
      simp only
      rcases ho : Host.newObjects cls c (o.nbest.map Candidate.args) t' with ⟨f | objects, t''⟩
      · rw [ho] at hobjects
        exact hobjects.error
      · rw [ho] at hobjects
        exact hobjects.trans (finish_accounts { e with hypotheses := ⟨h⟩ }
          (Handle.resolved_of_resolve hr) o.text objects alignment (e.sourceOf o) t'')

end Exporter

/-- An exporter on a model whose lookups are tallied, and its replies, the latest first. -/
structure Ledger where
  exporter : Exporter ClassDef Constructor
  tally : Tally
  replies : List (Except (Fault Empty) Value)

namespace Ledger

inductive Event where
  | register (cls : ClassDef)
  | marshal (o : DecoderOutput)

/-- A new exporter on a model that has not served any lookup. -/
def start (config : Config) (classes : List ClassDef) (minted : Nat) : Ledger where
  exporter := .ofConfig config
  tally := ⟨⟨⟨classes, 0, 0⟩, minted⟩, 0, 0⟩
  replies := []

def model (s : Ledger) : ObjectModel := s.tally.world.model

def step (s : Ledger) : Event → Ledger
  | .register cls => { s with tally.world.model := s.model.register cls }
  | .marshal o =>
    let (reply, exporter, tally) := s.exporter.marshal o s.tally
    ⟨exporter, tally, reply :: s.replies⟩

def run (s : Ledger) (events : List Event) : Ledger := events.foldl step s

/-- The number of replies so far that are errors with a property. -/
def failures (s : Ledger) (p : Fault Empty → Bool) : Nat := s.replies.countP (failsWith p)

structure Balanced (s : Ledger) : Prop where
  classLookups : s.model.classLookups = s.exporter.found + s.failures Fault.isLinkage
  constructorLookups :
    s.model.constructorLookups = s.exporter.found + s.failures Fault.lacksConstructor
  classesFound : s.tally.classesFound = s.exporter.found + s.failures Fault.lacksConstructor
  constructorsFound : s.tally.constructorsFound = s.exporter.found

variable {s : Ledger}

theorem failures_cons (e : Exporter ClassDef Constructor) (t : Tally)
    (reply : Except (Fault Empty) Value) (p : Fault Empty → Bool) :
    failures ⟨e, t, reply :: s.replies⟩ p = s.failures p + (failsWith p reply).toNat := by
  unfold failures
  rw [List.countP_cons]
  cases failsWith p reply <;> rfl

theorem Balanced.step (hs : s.Balanced) (event : Event) : (s.step event).Balanced := by
  obtain ⟨hcl, hco, hclf, hcof⟩ := hs
  cases event with
  | register cls => exact ⟨hcl, hco, hclf, hcof⟩
  | marshal o =>
    have hmarshal := s.exporter.marshal_accounts o s.tally
    rcases hm : s.exporter.marshal o s.tally with ⟨reply, exporter, tally⟩
    rw [hm] at hmarshal
    have hcall : Accounts s.tally tally s.exporter.found exporter.found reply := hmarshal
    obtain ⟨h₁, h₂, h₃, h₄⟩ := hcall
    have hstep : s.step (.marshal o) = ⟨exporter, tally, reply :: s.replies⟩ := by
      simp only [Ledger.step, hm]
    rw [hstep]
    unfold model at hcl hco
    -- what was held before the call cancels out
    constructor <;> simp only [model, failures_cons] <;> omega

theorem Balanced.run (hs : s.Balanced) (events : List Event) : (s.run events).Balanced := by
  induction events generalizing s with
  | nil => exact hs
  | cons event events ih => exact ih (hs.step event)

/-- After any registrations and calls, each resolved handle has cost one lookup of either sort that
succeeded. Each linkage error has cost one more lookup of a class, which succeeded exactly if the
error names a signature, and then one lookup of a constructor, which failed. -/
theorem lookups_accounted (config : Config) (classes : List ClassDef) (minted : Nat)
    (events : List Event) :
    let s := (start config classes minted).run events
    s.model.classLookups = s.exporter.found + s.failures Fault.isLinkage ∧
      s.model.constructorLookups = s.exporter.found + s.failures Fault.lacksConstructor ∧
      s.tally.classesFound = s.exporter.found + s.failures Fault.lacksConstructor ∧
      s.tally.constructorsFound = s.exporter.found ∧ s.exporter.found ≤ 3 := by
  intro s
  have hstart : (start config classes minted).Balanced := ⟨rfl, rfl, rfl, rfl⟩
  have hs : s.Balanced := hstart.run events
  exact ⟨hs.classLookups, hs.constructorLookups, hs.classesFound, hs.constructorsFound,
    s.exporter.found_le⟩

/-- The number of class lookups that succeed has no bound. Where hypotheses are configured to be of
the class of translations, every call finds that class and misses the constructor. -/
theorem classes_found_in_every_call :
    ¬ ∀ config classes minted events,
      let s := (start config classes minted).run events
      s.model.classLookups = s.exporter.found + s.failures Fault.isLinkage ∧
        s.model.constructorLookups = s.exporter.found + s.failures Fault.lacksConstructor ∧
        s.tally.classesFound ≤ 3 ∧ s.tally.constructorsFound ≤ 3 := by
  intro hclaim
  let config : Config := { hypothesisClass := defaultTranslationClass }
  let call : Event := .marshal ⟨"t", none, [], []⟩
  obtain ⟨-, -, hfound, -⟩ := hclaim config ObjectModel.withDefaultClasses.classes 0
    [call, call, call, call]
  have hfour : ((start config ObjectModel.withDefaultClasses.classes 0).run
      [call, call, call, call]).tally.classesFound = 4 := by decide +kernel
  omega

/-- The same events in a session, where the model has the number zero. -/
def Event.inSession : Event → Session.Event
  | .register cls => .register 0 cls
  | .marshal o => .marshal 0 o

/-- The session of the same exporter, in which nothing is tallied. -/
def session (s : Ledger) (others : Nat → ObjectModel) : Session where
  models := Function.update others 0 s.model
  minted := s.tally.world.minted
  exporter := s.exporter

theorem session_step (others : Nat → ObjectModel) (event : Event) :
    (s.step event).session others = (s.session others).step event.inSession := by
  cases event with
  | register cls =>
    simp only [session, Event.inSession, Session.step, Function.update_self, Function.update_idem]
    rfl
  | marshal o =>
    have hmap := s.exporter.marshal_map Tally.respects_world o s.tally
    simp only [session, Event.inSession, Session.step, Session.call, Function.update_self,
      Function.update_idem]
    unfold model
    rw [hmap]
    rfl

/-- Tallying changes nothing in a run. -/
theorem session_run (others : Nat → ObjectModel) (events : List Event) :
    (s.run events).session others = (s.session others).run (events.map Event.inSession) := by
  induction events generalizing s with
  | nil => rfl
  | cons event events ih =>
    have hstep := session_step (s := s) others event
    exact ih.trans (congrArg (fun t : Session => t.run (events.map Event.inSession)) hstep)

end Ledger

end DecoderExport
