import DecoderExport.Proofs.Lookup
import Mathlib.Data.List.Forall2

/-!
# What a constructor builds

`ClassDef.make` is the object that a constructor builds under a given stamp, and `ClassDef.makeAll`
builds one object for each list of arguments under successive stamps, up to the first refusal. The
operations of a world are these functions, run at the number of objects made so far.

Arguments that a signature admits can only be refused by the validator of the constructor.
-/

namespace DecoderExport

/-- What the validator of a constructor has against arguments. -/
def Constructor.refusal? (c : Constructor) (args : List Value) : Option String :=
  match c.validator with
  | none => none
  | some validator =>
    match validator args with
    | .ok () => none
    | .error message => some message

/-- Whether arguments have the number and the kinds that a signature asks for. -/
def Signature.Admits (s : Signature) (args : List Value) : Prop :=
  List.Forall₂ (fun v kind => v.fits kind = true) args s.params

theorem firstMisfit_of_fits {args : List Value} {kinds : List ParamKind}
    (h : List.Forall₂ (fun v kind => v.fits kind = true) args kinds) (index : Nat) :
    firstMisfit index args kinds = none := by
  induction h generalizing index with
  | nil => rfl
  | cons hv _ ih => rw [firstMisfit, if_pos hv, ih]

/-- The count and the kinds of admitted arguments are in order, so only the validator is left. -/
theorem Constructor.objection_of_admits {c : Constructor} {args : List Value}
    (h : c.signature.Admits args) : c.objection? args = (c.refusal? args).map .refused := by
  have hl : args.length = c.signature.arity := h.length_eq
  simp only [objection?, refusal?, hl, ne_eq, not_true_eq_false, if_false, firstMisfit_of_fits h]
  cases c.validator with
  | none => rfl
  | some validator => cases hv : validator args <;> simp [hv]

theorem fits_of_firstMisfit {args : List Value} {kinds : List ParamKind} {index : Nat}
    (hl : args.length = kinds.length) (h : firstMisfit index args kinds = none) :
    List.Forall₂ (fun v kind => v.fits kind = true) args kinds := by
  induction args generalizing kinds index with
  | nil =>
    obtain rfl := List.length_eq_zero_iff.1 hl.symm
    exact .nil
  | cons v args ih =>
    cases kinds with
    | nil => cases hl
    | cons kind kinds =>
      rw [firstMisfit] at h
      split at h
      · rename_i hv
        exact .cons hv (ih (Nat.succ.inj hl) h)
      · cases h

/-- Arguments that meet no objection are admitted. -/
theorem Constructor.admits_of_no_objection {c : Constructor} {args : List Value}
    (h : c.objection? args = none) : c.signature.Admits args := by
  unfold objection? at h
  split at h
  · cases h
  · rename_i hl
    cases hm : firstMisfit 0 args c.signature.params with
    | some misfit => simp only [hm, reduceCtorEq] at h
    | none => exact fits_of_firstMisfit (not_not.1 hl) hm

namespace ClassDef

/-- The object that a constructor builds under a stamp. -/
def make (cls : ClassDef) (c : Constructor) (stamp : Nat) (args : List Value) :
    Except (Fault Empty) Value :=
  match c.objection? args with
  | some why => .error (.construction cls.name why)
  | none => .ok (.object stamp cls.name (initialFields cls.fields c.assigns args))

/-- The objects that a constructor builds under successive stamps. -/
def makeAll (cls : ClassDef) (c : Constructor) :
    Nat → List (List Value) → Except (Fault Empty) (List Value)
  | _, [] => .ok []
  | stamp, args :: rest =>
    match cls.make c stamp args with
    | .error f => .error f
    | .ok v => (cls.makeAll c (stamp + 1) rest).map (v :: ·)

/-- The array of objects of a class under a stamp. -/
def gather (cls : ClassDef) (stamp : Nat) (elements : List Value) : Except (Fault Empty) Value :=
  match firstForeign? cls.name elements with
  | some index => .error (.construction cls.name (.elementClass index cls.name))
  | none => .ok (.array stamp cls.name elements)

variable {cls : ClassDef} {c : Constructor}

theorem eq_of_make {stamp : Nat} {args : List Value} {v : Value}
    (h : cls.make c stamp args = .ok v) :
    v = .object stamp cls.name (initialFields cls.fields c.assigns args) := by
  unfold make at h
  split at h <;> cases h
  rfl

theorem class?_of_make {stamp : Nat} {args : List Value} {v : Value}
    (h : cls.make c stamp args = .ok v) : v.class? = some cls.name := by
  rw [eq_of_make h]
  rfl

theorem eq_of_gather {stamp : Nat} {elements : List Value} {v : Value}
    (h : cls.gather stamp elements = .ok v) : v = .array stamp cls.name elements := by
  unfold gather at h
  split at h <;> cases h
  rfl

theorem class?_of_gather {stamp : Nat} {elements : List Value} {v : Value}
    (h : cls.gather stamp elements = .ok v) : ∀ x ∈ elements, x.class? = some cls.name := by
  unfold gather at h
  split at h
  · cases h
  · rename_i hn
    rw [firstForeign?, List.findIdx?_eq_none_iff] at hn
    intro x hx
    simpa using hn x hx

theorem class?_of_makeAll {stamp : Nat} {argss : List (List Value)} {vs : List Value}
    (h : cls.makeAll c stamp argss = .ok vs) : ∀ v ∈ vs, v.class? = some cls.name := by
  induction argss generalizing stamp vs with
  | nil => cases h; simp
  | cons args rest ih =>
    simp only [makeAll] at h
    split at h
    · cases h
    · rename_i v hv
      obtain ⟨us, hus, rfl⟩ := Json.ok_of_map_ok h
      intro u hu
      rcases List.mem_cons.1 hu with rfl | hu
      · exact class?_of_make hv
      · exact ih hus u hu

theorem objection_of_make {stamp : Nat} {args : List Value} {v : Value}
    (h : cls.make c stamp args = .ok v) : c.objection? args = none := by
  unfold make at h
  split at h
  · cases h
  · assumption

theorem objection_of_makeAll {stamp : Nat} {argss : List (List Value)} {vs : List Value}
    (h : cls.makeAll c stamp argss = .ok vs) : ∀ args ∈ argss, c.objection? args = none := by
  induction argss generalizing stamp vs with
  | nil => simp
  | cons args rest ih =>
    simp only [makeAll] at h
    split at h
    · cases h
    · rename_i v hv
      obtain ⟨us, hus, -⟩ := Json.ok_of_map_ok h
      exact List.forall_mem_cons.2 ⟨objection_of_make hv, ih hus⟩

/-- Where every list of arguments passes, the objects are the expected ones in order. -/
theorem makeAll_of_no_objection {argss : List (List Value)}
    (h : ∀ args ∈ argss, c.objection? args = none) (stamp : Nat) :
    cls.makeAll c stamp argss = .ok ((argss.zipIdx stamp).map fun (args, i) =>
      .object i cls.name (initialFields cls.fields c.assigns args)) := by
  induction argss generalizing stamp with
  | nil => rfl
  | cons args rest ih =>
    obtain ⟨ha, hr⟩ := List.forall_mem_cons.1 h
    simp only [makeAll, make, ha, ih hr, Except.map, List.zipIdx_cons, List.map_cons]

/-- A run of constructions fails at the first list of arguments that meets an objection. -/
theorem makeAll_error {stamp : Nat} {argss : List (List Value)} {f : Fault Empty}
    (h : cls.makeAll c stamp argss = .error f) :
    ∃ (k : Nat) (args : List Value) (why : Rejection Empty),
      argss[k]? = some args ∧ c.objection? args = some why ∧ f = .construction cls.name why ∧
      ∀ j < k, ∀ before, argss[j]? = some before → c.objection? before = none := by
  induction argss generalizing stamp with
  | nil => cases h
  | cons args rest ih =>
    cases ho : c.objection? args with
    | some why =>
      simp only [makeAll, make, ho, Except.error.injEq] at h
      exact ⟨0, args, why, rfl, ho, h.symm, by omega⟩
    | none =>
      simp only [makeAll, make, ho] at h
      cases hr : cls.makeAll c (stamp + 1) rest with
      | ok vs => rw [hr] at h; cases h
      | error f' =>
        rw [hr] at h
        obtain rfl : f' = f := Except.error.inj h
        obtain ⟨k, args', why, hk, ho', hf, hb⟩ := ih hr
        refine ⟨k + 1, args', why, hk, ho', hf, ?_⟩
        intro j hj before hbefore
        cases j with
        | zero => cases hbefore; exact ho
        | succ j => exact hb j (by omega) before hbefore

/-- An array takes objects of its own class. -/
theorem gather_of_class {elements : List Value} (h : ∀ v ∈ elements, v.class? = some cls.name)
    (stamp : Nat) : cls.gather stamp elements = .ok (.array stamp cls.name elements) := by
  have hn : firstForeign? cls.name elements = none := by
    rw [firstForeign?, List.findIdx?_eq_none_iff]
    intro v hv
    simp [h v hv]
  simp only [gather, hn]

end ClassDef

/-- Builds an object for each list of arguments in turn, up to the first that fails. -/
def Host.newObjects {σ ω γ κ ρ : Type} [Host σ ω γ κ ρ] (cls : γ) (c : κ) :
    List (List (Arg ω)) → σ → Reply σ ρ (List ω)
  | [], s => (.ok [], s)
  | args :: rest, s =>
    match Host.newObject cls c args s with
    | (.error e, s) => (.error e, s)
    | (.ok o, s) =>
      let (reply, s) := Host.newObjects cls c rest s
      (reply.map (o :: ·), s)

namespace World

@[simp] theorem minted_mint (w : World) : w.mint.minted = w.minted + 1 := rfl

@[simp] theorem model_mint (w : World) : w.mint.model = w.model := rfl

/-- The world after an attempt to make something. -/
def attempted {α : Type} (w : World) : Except (Fault Empty) α → World
  | .ok _ => w.mint
  | .error _ => w

theorem newObject_eq (cls : ClassDef) (c : Constructor) (args : List (Arg Value)) (w : World) :
    Host.newObject cls c args w =
      (cls.make c w.minted (args.map Arg.toValue),
        w.attempted (cls.make c w.minted (args.map Arg.toValue))) := by
  simp only [Host.newObject, newObject, ClassDef.make]
  cases c.objection? (args.map Arg.toValue) <;> rfl

theorem newArray_eq (cls : ClassDef) (elements : List Value) (w : World) :
    Host.newArray cls elements w =
      (cls.gather w.minted elements, w.attempted (cls.gather w.minted elements)) := by
  simp only [Host.newArray, newArray, ClassDef.gather]
  cases firstForeign? cls.name elements <;> rfl

theorem newObjects_ok {cls : ClassDef} {c : Constructor} {argss : List (List (Arg Value))}
    {w : World} {vs : List Value}
    (h : cls.makeAll c w.minted (argss.map (·.map Arg.toValue)) = .ok vs) :
    Host.newObjects cls c argss w = (.ok vs, { w with minted := w.minted + argss.length }) := by
  induction argss generalizing w vs with
  | nil => cases h; rfl
  | cons args rest ih =>
    simp only [List.map_cons, ClassDef.makeAll] at h
    rw [Host.newObjects, newObject_eq]
    cases hv : cls.make c w.minted (args.map Arg.toValue) with
    | error f => rw [hv] at h; cases h
    | ok v =>
      rw [hv] at h
      obtain ⟨us, hus, rfl⟩ := Json.ok_of_map_ok h
      have hn := ih (w := w.mint) hus
      simp only [attempted, hn, Except.map, List.length_cons, minted_mint, model_mint]
      rw [Nat.add_assoc, Nat.add_comm 1]

/-- Objects made before the refusal stay counted. -/
theorem newObjects_error {cls : ClassDef} {c : Constructor} {argss : List (List (Arg Value))}
    {w : World} {f : Fault Empty}
    (h : cls.makeAll c w.minted (argss.map (·.map Arg.toValue)) = .error f) :
    ∃ n, Host.newObjects cls c argss w = (.error f, { w with minted := n }) := by
  induction argss generalizing w with
  | nil => cases h
  | cons args rest ih =>
    simp only [List.map_cons, ClassDef.makeAll] at h
    rw [Host.newObjects, newObject_eq]
    cases hv : cls.make c w.minted (args.map Arg.toValue) with
    | error f' =>
      rw [hv] at h
      exact ⟨w.minted, by rw [← Except.error.inj h]; rfl⟩
    | ok v =>
      rw [hv] at h
      cases hr : cls.makeAll c (w.minted + 1) (rest.map (·.map Arg.toValue)) with
      | ok vs => simp [hr, Except.map] at h
      | error f' =>
        simp only [hr, Except.map, Except.error.injEq] at h
        subst h
        obtain ⟨n, hn⟩ := ih (w := w.mint) hr
        exact ⟨n, by simp only [attempted, hn, Except.map, model_mint]⟩

end World

end DecoderExport
