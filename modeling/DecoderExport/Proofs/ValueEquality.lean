import DecoderExport.Proofs.Provenance

/-!
# Comparison by value

Comparison by value is symmetric and transitive. It is not reflexive: a float that is no number is
equal to nothing, so a value that holds one at any depth is not even equal to itself. Every other
value is. Which objects two values are makes no difference.
-/

namespace DecoderExport

open DecoderExport.Number (Binary Single)

/-! ### Floats -/

namespace Number.Binary

variable {f : Number.Format} {x y z : Number.Binary f}

theorem same_iff : x.same y = true ↔
    x.isNaN = false ∧ x.pattern = y.pattern ∧ (x.negative = y.negative ∨ x.pattern = 0) := by
  simp [same, isZero, and_assoc]

theorem isNaN_congr (h : x.pattern = y.pattern) : x.isNaN = y.isNaN := by
  rw [isNaN, isNaN, h]

theorem same_symm (h : x.same y = true) : y.same x = true := by
  obtain ⟨hnan, hpattern, hsign⟩ := same_iff.1 h
  rw [isNaN_congr hpattern] at hnan
  rw [hpattern] at hsign
  exact same_iff.2 ⟨hnan, hpattern.symm, hsign.imp_left Eq.symm⟩

theorem same_trans (h : x.same y = true) (h' : y.same z = true) : x.same z = true := by
  obtain ⟨hnan, hpattern, hsign⟩ := same_iff.1 h
  obtain ⟨-, hpattern', hsign'⟩ := same_iff.1 h'
  refine same_iff.2 ⟨hnan, hpattern.trans hpattern', ?_⟩
  rcases hsign with hsign | hzero
  · rcases hsign' with hsign' | hzero
    · exact .inl (hsign.trans hsign')
    · exact .inr (hpattern.trans hzero)
  · exact .inr hzero

/-- A float is equal to itself if it is a number. -/
theorem same_self : x.same x = true ↔ x.isNaN = false := by
  simp [same_iff]

end Number.Binary

/-! ### Lists item by item -/

theorem forall₂_symm_of_mem {α : Type} {R : α → α → Prop} {xs ys : List α}
    (h : List.Forall₂ R xs ys) (hsymm : ∀ x ∈ xs, ∀ y, R x y → R y x) : List.Forall₂ R ys xs := by
  induction h with
  | nil => exact .nil
  | cons hxy _ ih =>
    obtain ⟨hhead, htail⟩ := List.forall_mem_cons.1 hsymm
    exact .cons (hhead _ hxy) (ih htail)

theorem forall₂_trans_of_mem {α : Type} {R : α → α → Prop} {xs ys zs : List α}
    (h : List.Forall₂ R xs ys) (h' : List.Forall₂ R ys zs)
    (htrans : ∀ x ∈ xs, ∀ y z, R x y → R y z → R x z) : List.Forall₂ R xs zs := by
  induction h generalizing zs with
  | nil => exact h'
  | cons hxy _ ih =>
    obtain ⟨hhead, htail⟩ := List.forall_mem_cons.1 htrans
    cases h' with
    | cons hyz hrest => exact .cons (hhead _ _ hxy hyz) (ih hrest htail)

namespace Value

/-! ### Comparison part by part -/

theorem sameElements_iff {xs ys : List Value} :
    sameElements xs ys = true ↔ List.Forall₂ (fun x y => x.same y = true) xs ys := by
  induction xs generalizing ys with
  | nil => cases ys <;> simp [sameElements]
  | cons x xs ih => cases ys <;> simp [sameElements, ih]

theorem sameFields_iff {fs gs : List (String × Value)} :
    sameFields fs gs = true ↔ List.Forall₂ (fun f g => f.1 = g.1 ∧ f.2.same g.2 = true) fs gs := by
  induction fs generalizing gs with
  | nil => cases gs <;> simp [sameFields]
  | cons f fs ih => cases gs <;> simp [sameFields, ih]

theorem array_same_iff {i j : Nat} {c d : String} {xs ys : List Value} :
    (array i c xs).same (array j d ys) = true ↔
      c = d ∧ List.Forall₂ (fun x y => x.same y = true) xs ys := by
  simp [same, sameElements_iff]

theorem object_same_iff {i j : Nat} {c d : String} {fs gs : List (String × Value)} :
    (object i c fs).same (object j d gs) = true ↔
      c = d ∧ List.Forall₂ (fun f g => f.1 = g.1 ∧ f.2.same g.2 = true) fs gs := by
  simp [same, sameFields_iff]

/-- Induction on a value by way of its elements and fields. -/
@[elab_as_elim]
theorem induct {P : Value → Prop} (null : P null) (text : ∀ s, P (text s)) (float : ∀ x, P (float x))
    (ints : ∀ i values, P (ints i values))
    (array : ∀ i c elements, (∀ x ∈ elements, P x) → P (array i c elements))
    (object : ∀ i c fields, (∀ f ∈ fields, P f.2) → P (object i c fields)) (v : Value) : P v :=
  @Value.rec P (fun elements => ∀ x ∈ elements, P x) (fun fields => ∀ f ∈ fields, P f.2)
    (fun f => P f.2) null text float ints array object (List.forall_mem_nil _)
    (fun _ _ hx hxs => List.forall_mem_cons.2 ⟨hx, hxs⟩) (List.forall_mem_nil _)
    (fun _ _ hf hfs => List.forall_mem_cons.2 ⟨hf, hfs⟩) (fun _ _ hx => hx) v

theorem same_symm {v w : Value} (h : v.same w = true) : w.same v = true := by
  induction v using induct generalizing w with
  | null => cases w <;> first | rfl | exact h
  | text s =>
    cases w with
    | text t => simpa [same, eq_comm] using h
    | _ => exact h
  | float x =>
    cases w with
    | float y => exact Binary.same_symm h
    | _ => exact h
  | ints i values =>
    cases w with
    | ints j values' => simpa [same, eq_comm] using h
    | _ => exact h
  | array i c xs ih =>
    cases w with
    | array j d ys =>
      obtain ⟨rfl, hxs⟩ := array_same_iff.1 h
      exact array_same_iff.2 ⟨rfl, forall₂_symm_of_mem hxs fun x hx y hxy => ih x hx hxy⟩
    | _ => exact h
  | object i c fs ih =>
    cases w with
    | object j d gs =>
      obtain ⟨rfl, hfs⟩ := object_same_iff.1 h
      refine object_same_iff.2 ⟨rfl, forall₂_symm_of_mem hfs fun f hf g hfg => ?_⟩
      exact ⟨hfg.1.symm, ih f hf hfg.2⟩
    | _ => exact h

theorem same_trans {u v w : Value} (h : u.same v = true) (h' : v.same w = true) :
    u.same w = true := by
  induction u using induct generalizing v w with
  | null =>
    cases v with
    | null => exact h'
    | _ => cases h
  | text s =>
    cases v with
    | text t =>
      obtain rfl : s = t := of_decide_eq_true h
      exact h'
    | _ => cases h
  | float x =>
    cases v with
    | float y =>
      cases w with
      | float z => exact Binary.same_trans h h'
      | _ => cases h'
    | _ => cases h
  | ints i values =>
    cases v with
    | ints j values' =>
      obtain rfl : values = values' := of_decide_eq_true h
      cases w with
      | ints => exact h'
      | _ => cases h'
    | _ => cases h
  | array i c xs ih =>
    cases v with
    | array j d ys =>
      cases w with
      | array k e zs =>
        obtain ⟨rfl, hxs⟩ := array_same_iff.1 h
        obtain ⟨rfl, hys⟩ := array_same_iff.1 h'
        exact array_same_iff.2
          ⟨rfl, forall₂_trans_of_mem hxs hys fun x hx y z hxy hyz => ih x hx hxy hyz⟩
      | _ => cases h'
    | _ => cases h
  | object i c fs ih =>
    cases v with
    | object j d gs =>
      cases w with
      | object k e hs =>
        obtain ⟨rfl, hfs⟩ := object_same_iff.1 h
        obtain ⟨rfl, hgs⟩ := object_same_iff.1 h'
        refine object_same_iff.2 ⟨rfl, forall₂_trans_of_mem hfs hgs fun f hf g k hfg hgk => ?_⟩
        exact ⟨hfg.1.trans hgk.1, ih f hf hfg.2 hgk.2⟩
      | _ => cases h'
    | _ => cases h

/-! ### What is equal to itself -/

/-- A float that is no number lies somewhere in a value. -/
def HasNaN (v : Value) : Prop := ∃ x : Single, (float x).Part v ∧ x.isNaN = true

theorem not_hasNaN_null : ¬ null.HasNaN := by
  rintro ⟨_, h, -⟩
  cases h

theorem not_hasNaN_text {s : String} : ¬ (text s).HasNaN := by
  rintro ⟨_, h, -⟩
  cases h

theorem not_hasNaN_ints {i : Nat} {values : List Int32} : ¬ (ints i values).HasNaN := by
  rintro ⟨_, h, -⟩
  cases h

theorem hasNaN_float {x : Single} : (float x).HasNaN ↔ x.isNaN = true := by
  constructor
  · rintro ⟨y, _ | _, hnan⟩
    exact hnan
  · exact fun h => ⟨x, .self _, h⟩

theorem hasNaN_array {i : Nat} {c : String} {elements : List Value} :
    (array i c elements).HasNaN ↔ ∃ v ∈ elements, v.HasNaN := by
  constructor
  · rintro ⟨x, _ | ⟨hv, hx⟩, hnan⟩
    exact ⟨_, hv, x, hx, hnan⟩
  · rintro ⟨v, hv, x, hx, hnan⟩
    exact ⟨x, .element hv hx, hnan⟩

theorem hasNaN_object {i : Nat} {c : String} {fields : List (String × Value)} :
    (object i c fields).HasNaN ↔ ∃ f ∈ fields, f.2.HasNaN := by
  constructor
  · rintro ⟨x, _ | _ | ⟨hf, hx⟩, hnan⟩
    exact ⟨_, hf, x, hx, hnan⟩
  · rintro ⟨f, hf, x, hx, hnan⟩
    exact ⟨x, .field hf hx, hnan⟩

/-- A value is equal to itself unless it holds a float that is no number. -/
theorem same_self {v : Value} : v.same v = true ↔ ¬ v.HasNaN := by
  induction v using induct with
  | null => exact ⟨fun _ => not_hasNaN_null, fun _ => rfl⟩
  | text s => exact ⟨fun _ => not_hasNaN_text, fun _ => decide_eq_true rfl⟩
  | float x =>
    rw [hasNaN_float, Bool.not_eq_true]
    exact Binary.same_self
  | ints i values => exact ⟨fun _ => not_hasNaN_ints, fun _ => decide_eq_true rfl⟩
  | array i c elements ih =>
    rw [array_same_iff, hasNaN_array, List.forall₂_same]
    simp only [true_and, not_exists, not_and]
    exact forall₂_congr ih
  | object i c fields ih =>
    rw [object_same_iff, hasNaN_object, List.forall₂_same]
    simp only [true_and, not_exists, not_and]
    exact forall₂_congr ih

end Value

end DecoderExport
