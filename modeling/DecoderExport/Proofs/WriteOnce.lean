import DecoderExport.Proofs.Refusal
import DecoderExport.Proofs.Workshop

/-!
# Handles are written once

In any run of a workshop a handle is resolved exactly if some operation has resolved it with
success. What the first success found is what it holds from then on, so nothing that is registered
later shows in what is built with it. A handle that is not resolved is as good as new, however often
it was asked in vain.
-/

namespace DecoderExport

namespace Handle

variable {h : Handle ClassDef Constructor} {m : ObjectModel}

/-- Asking a registry leaves a handle resolved exactly if the handle has an answer. -/
theorem isResolved_settled : (h.settled m).isResolved = true ↔ ∃ found, h.find m = .ok found := by
  unfold settled isResolved
  cases h.find m with
  | error f => simp [Except.toOption]
  | ok found => simp [Except.toOption]

theorem eq_forget_of_unresolved (hr : h.isResolved = false) : h = h.forget := by
  have hnone : h.resolved = none := by simpa [isResolved] using hr
  cases h
  cases hnone
  rfl

end Handle

namespace Workshop

/-- An operation resolves the handle at a place with success. -/
def Resolves (s : Workshop) (op : Op) (p : Place) (found : ClassDef × Constructor) : Prop :=
  p ∈ s.asked op ∧ ((s.handleAt p).resolve (s.world op.model)).1 = .ok found

/-- Some of the operations of a run resolves the handle at a place with success. -/
def EverResolves (s : Workshop) (ops : List Op) (p : Place) : Prop :=
  ∃ before op after found, ops = before ++ op :: after ∧ (s.run before).Resolves op p found

variable {s : Workshop} {p : Place}

theorem resolves_iff {op : Op} {found : ClassDef × Constructor} :
    s.Resolves op p found ↔
      p ∈ s.asked op ∧ (s.handleAt p).find (s.models op.model) = .ok found := by
  unfold Resolves
  rw [Handle.resolve_eq]
  rfl

theorem isResolved_step (op : Op) :
    ((s.step op).handleAt p).isResolved = true ↔
      (s.handleAt p).isResolved = true ∨ ∃ found, s.Resolves op p found := by
  simp only [resolves_iff, handleAt_step]
  by_cases hp : p ∈ s.asked op
  · rw [if_pos hp, Handle.isResolved_settled]
    simp only [hp, true_and]
    constructor
    · exact .inr
    · rintro (hr | hf)
      · obtain ⟨found, hfound⟩ := Option.isSome_iff_exists.1 hr
        exact ⟨found, Handle.find_of_resolved hfound _⟩
      · exact hf
  · rw [if_neg hp]
    simp [hp]

theorem everResolves_cons {op : Op} {ops : List Op} :
    s.EverResolves (op :: ops) p ↔
      (∃ found, s.Resolves op p found) ∨ (s.step op).EverResolves ops p := by
  constructor
  · rintro ⟨before, op', after, found, heq, hr⟩
    cases before with
    | nil =>
      obtain ⟨rfl, -⟩ := List.cons.inj heq
      exact .inl ⟨found, hr⟩
    | cons first before =>
      obtain ⟨rfl, rfl⟩ := List.cons.inj heq
      exact .inr ⟨before, op', after, found, rfl, hr⟩
  · rintro (⟨found, hr⟩ | ⟨before, op', after, found, rfl, hr⟩)
    · exact ⟨[], op, ops, found, rfl, hr⟩
    · exact ⟨op :: before, op', after, found, rfl, hr⟩

theorem isResolved_run (ops : List Op) :
    ((s.run ops).handleAt p).isResolved = true ↔
      (s.handleAt p).isResolved = true ∨ s.EverResolves ops p := by
  induction ops generalizing s with
  | nil => simp [run, EverResolves]
  | cons op ops ih =>
    rw [everResolves_cons, ← or_assoc, ← isResolved_step]
    exact ih

/-- Nothing that happens later changes a handle that is resolved. -/
theorem handleAt_run_of_resolved {found : ClassDef × Constructor}
    (hr : (s.handleAt p).resolved = some found) (ops : List Op) :
    (s.run ops).handleAt p = s.handleAt p := by
  induction ops generalizing s with
  | nil => rfl
  | cons op ops ih =>
    have hstep : (s.step op).handleAt p = s.handleAt p := by
      rw [handleAt_step, Handle.settled_of_resolved hr, ite_self]
    have hrun : (s.run (op :: ops)).handleAt p = (s.step op).handleAt p :=
      ih (by rw [hstep, hr])
    rw [hrun, hstep]

/-- A handle never changes what it is for. -/
theorem forget_handleAt_run (ops : List Op) :
    ((s.run ops).handleAt p).forget = (s.handleAt p).forget := by
  induction ops generalizing s with
  | nil => rfl
  | cons op ops ih =>
    have hstep : ((s.step op).handleAt p).forget = (s.handleAt p).forget := by
      rw [handleAt_step]
      split <;> rfl
    exact (ih (s := s.step op)).trans hstep

theorem resolved_step_of_resolves {op : Op} {found : ClassDef × Constructor}
    (hr : s.Resolves op p found) : ((s.step op).handleAt p).resolved = some found := by
  obtain ⟨hp, hf⟩ := resolves_iff.1 hr
  rw [handleAt_step, if_pos hp, Handle.resolved_settled_of_ok hf]

/-- What is built with a resolved handle depends on the arguments and on nothing that comes
between. -/
theorem reply_alike {i : Nat} {b b' : Build} {cls : ClassDef} {c : Constructor}
    (hr : (s.handleAt (.part i b.role)).resolved = some (cls, c))
    (hb : b' = b ∨ b.Alike b' ∧ c.ByValue) (ops ops' : List Op) (model model' : Nat) :
    AlikeReplies ((s.run ops).reply model i b) ((s.run ops').reply model' i b') := by
  have hreply (b : Build) (hr : (s.handleAt (.part i b.role)).resolved = some (cls, c))
      (ops : List Op) (model : Nat) :
      (s.run ops).reply model i b = b.result cls c (s.run ops).minted := by
    have hrun := handleAt_run_of_resolved hr ops
    exact Exporter.fst_build _ (by rw [← hr, ← hrun]; rfl) _
  rcases hb with rfl | ⟨halike, hc⟩
  · rw [hreply b' hr, hreply b' hr]
    exact b'.result_alike cls c _ _
  · have hr' : (s.handleAt (.part i b'.role)).resolved = some (cls, c) := by
      rw [← halike.role_eq, hr]
    rw [hreply b hr, hreply b' hr']
    exact halike.result cls hc _ _

theorem isResolved_start (models : Nat → ObjectModel) (minted : Nat)
    (names : Nat → String × Signature) (configs : Nat → Config) (p : Place) :
    ((start models minted names configs).handleAt p).isResolved = false := by
  cases p with
  | alone i => rfl
  | part i role => cases role <;> rfl

/-- The history of a handle in any run. It is resolved exactly if some operation has resolved it
with success. It holds the class that the registry of the first success had under its name, and the
first constructor of that class with its signature. Whatever happens later in two runs, for example
other registrations, the same arguments make alike objects with it in both, and so do alike
arguments if the validator judges by value. While it is not resolved, it resolves as a new handle
would. -/
theorem handle_written_once (models : Nat → ObjectModel) (minted : Nat)
    (names : Nat → String × Signature) (configs : Nat → Config) (ops : List Op) (p : Place) :
    let new := start models minted names configs
    let s := new.run ops
    ((s.handleAt p).isResolved = true ↔ new.EverResolves ops p) ∧
      (∀ before op after cls c, ops = before ++ op :: after → ¬ new.EverResolves before p →
        (new.run before).Resolves op p (cls, c) →
          (s.handleAt p).resolved = some (cls, c) ∧
          ((new.run before).models op.model).class? (new.handleAt p).className = some cls ∧
          cls.constructors.find? (·.signature = (new.handleAt p).signature) = some c) ∧
      (∀ i b b' cls c, p = .part i b.role → (s.handleAt p).resolved = some (cls, c) →
        (b' = b ∨ b.Alike b' ∧ c.ByValue) → ∀ later later' model model',
          AlikeReplies ((s.run later).reply model i b) ((s.run later').reply model' i b')) ∧
      ((s.handleAt p).isResolved = false → ∀ w : World,
        (s.handleAt p).resolve w =
          Handle.resolve ⟨(new.handleAt p).className, (new.handleAt p).signature, none⟩ w) := by
  intro new s
  have hiff (ops : List Op) :
      ((new.run ops).handleAt p).isResolved = true ↔ new.EverResolves ops p := by
    rw [isResolved_run, isResolved_start]
    simp
  refine ⟨hiff ops, ?_, ?_, ?_⟩
  · rintro before op after cls c rfl hfirst hr
    have hrun : s = ((new.run before).step op).run after := run_append new before (op :: after)
    have hresolved := resolved_step_of_resolves hr
    -- before the first success the handle is the new one, so the registry decides alone
    have hnew : (new.run before).handleAt p = (new.handleAt p).forget := by
      have hunresolved : ((new.run before).handleAt p).isResolved = false := by
        rw [← Bool.not_eq_true, hiff]
        exact hfirst
      rw [Handle.eq_forget_of_unresolved hunresolved, forget_handleAt_run]
    refine ⟨by rw [hrun, handleAt_run_of_resolved hresolved, hresolved], ?_⟩
    have hfind := (resolves_iff.1 hr).2
    rw [hnew, Handle.find_of_unresolved rfl] at hfind
    exact ObjectModel.lookup_eq_ok_iff.1 hfind
  · rintro i b b' cls c rfl hr hb later later' model model'
    exact reply_alike hr hb later later' model model'
  · intro hr w
    rw [Handle.eq_forget_of_unresolved hr, forget_handleAt_run]
    rfl

/-- A call fails on an empty registry, a strict class is registered and found, and a lenient one
takes its place. The handle keeps the strict class, which rejects with any model, and before it was
found the handle was as good as new. -/
theorem handle_written_once_after_failure :
    let new := start (fun _ => .empty) 0 (fun _ => ("", .hypothesis)) (fun _ => {})
    let before : List Op :=
      [.perform 0 0 (.marshal ⟨"", none, [], []⟩), .register 0 Session.strictHypothesisClass]
    let s := new.run (before ++ .perform 0 0 .resolveHypotheses :: [.register 0 hypothesisClass])
    let p : Place := .part 0 .hypothesis
    let b : Build := .hypothesis ⟨"", .ofBits Number.single 2143289344, ""⟩
    (s.handleAt p).isResolved = true ∧
      s.reply 0 0 b = .error (.construction defaultHypothesisClass (.refused "score is NaN")) ∧
      AlikeReplies (s.reply 0 0 b) ((s.run [.register 1 hypothesisClass]).reply 1 0 b) ∧
      ∀ w : World, ((new.run before).handleAt p).resolve w =
        Handle.resolve ⟨defaultHypothesisClass, .hypothesis, none⟩ w := by
  intro new before s p b
  obtain ⟨hbefore, -, -, hunresolved⟩ := handle_written_once (fun _ => .empty) 0
    (fun _ => ("", .hypothesis)) (fun _ => {}) before p
  obtain ⟨hiff, hfirst, hlater, -⟩ := handle_written_once (fun _ => .empty) 0
    (fun _ => ("", .hypothesis)) (fun _ => {}) (before ++ .perform 0 0 .resolveHypotheses ::
      [.register 0 hypothesisClass]) p
  have hnever : ¬ new.EverResolves before p := fun h => nomatch hbefore.2 h
  have hfound : (new.run before).Resolves (.perform 0 0 .resolveHypotheses) p
      (Session.strictHypothesisClass, ⟨.hypothesis, ["text", "totalScore", "featureValues"],
        some (Rule.notNaN.validator 1 "score is NaN")⟩) :=
    ⟨List.mem_singleton.2 rfl, rfl⟩
  obtain ⟨hr, -⟩ := hfirst before _ _ _ _ rfl hnever hfound
  exact ⟨hiff.2 ⟨before, _, _, _, rfl, hfound⟩, rfl,
    hlater 0 b b _ _ rfl hr (.inl rfl) [] _ 0 1, hunresolved rfl⟩

end Workshop

end DecoderExport
