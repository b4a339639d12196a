import DecoderExport.Exporter
import DecoderExport.Objects.Model

/-!
# What a handle finds

`ObjectModel.lookup` is what a handle without memory gets from a registry. A handle that has found
its constructor answers from memory, so its answer may come from an older registry or from another
one. `Handle.resolve_eq` says this in one equation; the counters are the only other trace. Nothing
is said here about the objects that are built afterwards.
-/

namespace DecoderExport

namespace ObjectModel

/-- The class with a name and its first constructor with a signature, or what is missing. -/
def lookup (m : ObjectModel) (name : String) (signature : Signature) :
    Except (Fault Empty) (ClassDef × Constructor) :=
  match m.class? name with
  | none => .error (.linkage name "" .classNotRegistered)
  | some cls =>
    match cls.constructor? signature with
    | none => .error (.linkage cls.name signature.display .noSuchConstructor)
    | some c => .ok (cls, c)

theorem name_of_class? {m : ObjectModel} {name : String} {cls : ClassDef}
    (h : m.class? name = some cls) : cls.name = name := by
  simpa using List.find?_some h

theorem lookup_eq_ok_iff {m : ObjectModel} {name : String} {signature : Signature}
    {cls : ClassDef} {c : Constructor} :
    m.lookup name signature = .ok (cls, c) ↔
      m.class? name = some cls ∧ cls.constructor? signature = some c := by
  constructor
  · intro h
    unfold lookup at h
    split at h
    · cases h
    · rename_i hm
      split at h <;> cases h
      rename_i hc
      exact ⟨hm, hc⟩
  · rintro ⟨hm, hc⟩
    simp only [lookup, hm, hc]

theorem lookup_ok {m : ObjectModel} {name : String} {signature : Signature} {cls : ClassDef}
    {c : Constructor} (h : m.lookup name signature = .ok (cls, c)) :
    cls.name = name ∧ cls.constructor? signature = some c := by
  obtain ⟨hm, hc⟩ := lookup_eq_ok_iff.1 h
  exact ⟨name_of_class? hm, hc⟩

/-- A lookup that fails reports a name, never a refused object. -/
theorem isLinkage_of_lookup_error {m : ObjectModel} {name : String} {signature : Signature}
    {f : Fault Empty} (h : m.lookup name signature = .error f) : f.isLinkage = true := by
  unfold lookup at h
  split at h
  · cases h; rfl
  · split at h
    · cases h; rfl
    · cases h

/-- Counters play no part in a lookup. -/
theorem lookup_congr {m m' : ObjectModel} (h : m.classes = m'.classes) (name : String)
    (signature : Signature) : m.lookup name signature = m'.lookup name signature := by
  simp only [lookup, class?, h]

end ObjectModel

theorem signature_of_constructor? {cls : ClassDef} {signature : Signature} {c : Constructor}
    (h : cls.constructor? signature = some c) : c.signature = signature := by
  simpa using List.find?_some h

namespace ObjectModel

/-- The registry after it has served lookups. -/
def served (m : ObjectModel) (classes constructors : Nat) : ObjectModel :=
  { m with
    classLookups := m.classLookups + classes
    constructorLookups := m.constructorLookups + constructors }

/-- The registry after a handle has asked for its constructor. -/
def afterResolving (m : ObjectModel) (h : Handle ClassDef Constructor) : ObjectModel :=
  if h.isResolved then m
  else m.served 1 (if (m.class? h.className).isSome then 1 else 0)

@[simp] theorem classes_afterResolving (m : ObjectModel) (h : Handle ClassDef Constructor) :
    (m.afterResolving h).classes = m.classes := by
  unfold afterResolving served
  split <;> rfl

end ObjectModel

namespace Handle

/-- What a handle answers when it may ask a registry. -/
def find (h : Handle ClassDef Constructor) (m : ObjectModel) :
    Except (Fault Empty) (ClassDef × Constructor) :=
  match h.resolved with
  | some found => .ok found
  | none => m.lookup h.className h.signature

/-- The handle after it has asked a registry. -/
def settled (h : Handle ClassDef Constructor) (m : ObjectModel) : Handle ClassDef Constructor :=
  { h with resolved := (h.find m).toOption }

/-- The handle without what it has found. -/
def forget {γ κ : Type} (h : Handle γ κ) : Handle γ κ := { h with resolved := none }

theorem find_of_resolved {h : Handle ClassDef Constructor} {found : ClassDef × Constructor}
    (hr : h.resolved = some found) (m : ObjectModel) : h.find m = .ok found := by
  simp only [find, hr]

theorem find_of_unresolved {h : Handle ClassDef Constructor} (hr : h.resolved = none)
    (m : ObjectModel) : h.find m = m.lookup h.className h.signature := by
  simp only [find, hr]

theorem isLinkage_of_find_error {h : Handle ClassDef Constructor} {m : ObjectModel}
    {f : Fault Empty} (hf : h.find m = .error f) : f.isLinkage = true := by
  cases hr : h.resolved with
  | some found => rw [find_of_resolved hr] at hf; cases hf
  | none =>
    rw [find_of_unresolved hr] at hf
    exact ObjectModel.isLinkage_of_lookup_error hf

theorem find_congr {m m' : ObjectModel} (hm : m.classes = m'.classes)
    (h : Handle ClassDef Constructor) : h.find m = h.find m' := by
  unfold find
  rw [ObjectModel.lookup_congr hm]

theorem settled_congr {m m' : ObjectModel} (hm : m.classes = m'.classes)
    (h : Handle ClassDef Constructor) : h.settled m = h.settled m' := by
  unfold settled
  rw [find_congr hm]

theorem settled_of_resolved {h : Handle ClassDef Constructor} {found : ClassDef × Constructor}
    (hr : h.resolved = some found) (m : ObjectModel) : h.settled m = h := by
  cases h
  simp_all [settled, find, Except.toOption]

/-- A failed lookup is not kept. -/
theorem settled_of_error {h : Handle ClassDef Constructor} {m : ObjectModel} {f : Fault Empty}
    (hf : h.find m = .error f) : h.settled m = h := by
  cases hr : h.resolved with
  | some found => rw [find_of_resolved hr] at hf; cases hf
  | none =>
    cases h
    simp_all [settled, Except.toOption]

theorem resolved_settled_of_ok {h : Handle ClassDef Constructor} {m : ObjectModel}
    {found : ClassDef × Constructor} (hf : h.find m = .ok found) :
    (h.settled m).resolved = some found := by
  simp only [settled, hf, Except.toOption]

/-- An answer out of memory leaves no trace at all; any other answer is counted, and kept if it is
a success. -/
theorem resolve_eq (h : Handle ClassDef Constructor) (w : World) :
    h.resolve w =
      (h.find w.model, h.settled w.model, { w with model := w.model.afterResolving h }) := by
  cases hr : h.resolved with
  | some found =>
    rw [find_of_resolved hr, settled_of_resolved hr]
    simp [resolve, ObjectModel.afterResolving, isResolved, hr]
  | none =>
    have hf := find_of_unresolved hr w.model
    simp only [resolve, ObjectModel.afterResolving, isResolved, hr, settled, hf,
      ObjectModel.lookup, Host.findClass, Host.findConstructor, World.findClass,
      World.findConstructor, ObjectModel.served]
    cases hm : w.model.class? h.className with
    | none => cases h; cases hr; rfl
    | some cls =>
      cases hc : cls.constructor? h.signature with
      | none => cases h; cases hr; simp [hc, Except.toOption]
      | some c => simp [hc, Except.toOption]

end Handle

/-- What a handle holds has the name and the signature that the handle asks for. -/
def Handle.Fits (h : Handle ClassDef Constructor) : Prop :=
  ∀ cls c, h.resolved = some (cls, c) →
    cls.name = h.className ∧ cls.constructor? h.signature = some c

namespace Handle.Fits

variable {h : Handle ClassDef Constructor} {m : ObjectModel} {cls : ClassDef} {c : Constructor}

theorem find (hf : h.Fits) (hc : h.find m = .ok (cls, c)) :
    cls.name = h.className ∧ cls.constructor? h.signature = some c := by
  cases hr : h.resolved with
  | some found =>
    rw [find_of_resolved hr, Except.ok.injEq] at hc
    exact hf cls c (by rw [hr, hc])
  | none =>
    rw [find_of_unresolved hr] at hc
    exact ObjectModel.lookup_ok hc

theorem settled (hf : h.Fits) (m : ObjectModel) : (h.settled m).Fits := by
  intro cls c hr
  cases hc : h.find m with
  | error f => rw [settled_of_error hc] at hr; exact hf cls c hr
  | ok found =>
    rw [resolved_settled_of_ok hc, Option.some.injEq] at hr
    subst hr
    exact hf.find hc

end Handle.Fits

/-- What a handle holds is what a registry would answer. -/
def Handle.Agrees (m : ObjectModel) (h : Handle ClassDef Constructor) : Prop :=
  ∀ found, h.resolved = some found → m.lookup h.className h.signature = .ok found

namespace Handle.Agrees

variable {h : Handle ClassDef Constructor} {m m' : ObjectModel}

theorem find (ha : h.Agrees m) : h.find m = m.lookup h.className h.signature := by
  cases hr : h.resolved with
  | some found => rw [find_of_resolved hr, ha found hr]
  | none => exact find_of_unresolved hr m

theorem settled (ha : h.Agrees m) : (h.settled m).Agrees m := by
  intro found hr
  cases hf : h.find m with
  | error f => rw [settled_of_error hf] at hr; exact ha found hr
  | ok other =>
    rw [resolved_settled_of_ok hf, Option.some.injEq] at hr
    rw [← hr, ← hf]
    exact ha.find.symm

end Handle.Agrees

end DecoderExport
