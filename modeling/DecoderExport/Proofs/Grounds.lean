import DecoderExport.Proofs.Refusal

/-!
# Grounds for a failure

What it means, in terms of the registry and of the classes, that a lookup fails, that a handle gets
at a constructor, and that a validator rejects arguments. Each is tied to the function that decides
it, and each leaves room for one outcome only.
-/

namespace DecoderExport

/-- What a registry reports of a class or a constructor that it does not have. -/
inductive ObjectModel.Lacks (m : ObjectModel) (name : String) (signature : Signature) :
    Fault Empty → Prop where
  | cls (h : m.class? name = none) : Lacks m name signature (.linkage name "" .classNotRegistered)
  | constructor {cls : ClassDef} (h : m.class? name = some cls)
      (hc : cls.constructor? signature = none) :
      Lacks m name signature (.linkage name signature.display .noSuchConstructor)

/-- A handle gets at a class and a constructor: out of memory, or else from a registry. -/
def Handle.Gets (h : Handle ClassDef Constructor) (m : ObjectModel) (name : String)
    (signature : Signature) (cls : ClassDef) (c : Constructor) : Prop :=
  h.resolved = some (cls, c) ∨
    h.resolved = none ∧ m.class? name = some cls ∧ cls.constructor? signature = some c

/-- A constructor has a validator that rejects arguments. -/
def Constructor.Rejects (c : Constructor) (args : List Value) (message : String) : Prop :=
  ∃ validator, c.validator = some validator ∧ validator args = .error message

namespace ObjectModel

variable {m : ObjectModel} {name : String} {signature : Signature}

theorem lacks_of_lookup {f : Fault Empty} (h : m.lookup name signature = .error f) :
    m.Lacks name signature f := by
  unfold lookup at h
  cases hm : m.class? name with
  | none =>
    simp only [hm, Except.error.injEq] at h
    subst h
    exact .cls hm
  | some cls =>
    cases hc : cls.constructor? signature with
    | some c => simp [hm, hc] at h
    | none =>
      simp only [hm, hc, Except.error.injEq, name_of_class? hm] at h
      subst h
      exact .constructor hm hc

theorem Lacks.lookup {f : Fault Empty} (h : m.Lacks name signature f) :
    m.lookup name signature = .error f := by
  cases h with
  | cls h => simp only [ObjectModel.lookup, h]
  | constructor h hc => simp only [ObjectModel.lookup, h, hc, name_of_class? h]

end ObjectModel

namespace Constructor

variable {c : Constructor} {args : List Value} {message : String}

theorem refusal?_eq_some_iff : c.refusal? args = some message ↔ c.Rejects args message := by
  constructor
  · exact refusal_eq_some
  · rintro ⟨validator, hv, hm⟩
    simp only [refusal?, hv, hm]

theorem not_rejects (h : c.refusal? args = none) (message : String) :
    ¬ c.Rejects args message := by
  rw [← refusal?_eq_some_iff, h]
  exact nofun

theorem Rejects.unique {message' : String} (h : c.Rejects args message)
    (h' : c.Rejects args message') : message = message' := by
  rw [← refusal?_eq_some_iff] at h h'
  rw [h, Option.some.injEq] at h'
  exact h'

end Constructor

namespace Handle

variable {h : Handle ClassDef Constructor} {m : ObjectModel} {cls : ClassDef} {c : Constructor}

theorem find_eq_ok_iff :
    h.find m = .ok (cls, c) ↔ h.Gets m h.className h.signature cls c := by
  unfold Gets
  cases hr : h.resolved with
  | some found => simp [find_of_resolved hr]
  | none => simp [find_of_unresolved hr, ObjectModel.lookup_eq_ok_iff]

theorem Gets.unique {name : String} {signature : Signature} {cls' : ClassDef} {c' : Constructor}
    (hc : h.Gets m name signature cls c) (hc' : h.Gets m name signature cls' c') :
    cls = cls' ∧ c = c' := by
  rcases hc with hr | ⟨hr, hcls, hc⟩
  · rcases hc' with hr' | ⟨hr', -, -⟩
    · rwa [hr, Option.some.injEq, Prod.mk.injEq] at hr'
    · rw [hr] at hr'
      cases hr'
  · rcases hc' with hr' | ⟨-, hcls', hc'⟩
    · rw [hr] at hr'
      cases hr'
    · rw [hcls, Option.some.injEq] at hcls'
      subst hcls'
      rw [hc, Option.some.injEq] at hc'
      exact ⟨rfl, hc'⟩

theorem lacks_of_find {f : Fault Empty} (hf : h.find m = .error f) :
    h.resolved = none ∧ m.Lacks h.className h.signature f := by
  cases hr : h.resolved with
  | some found => rw [find_of_resolved hr] at hf; cases hf
  | none =>
    rw [find_of_unresolved hr] at hf
    exact ⟨rfl, ObjectModel.lacks_of_lookup hf⟩

end Handle

end DecoderExport
