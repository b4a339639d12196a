import DecoderExport.Proofs.FieldRendering
import DecoderExport.Proofs.Grounds

/-!
# New objects are what their class declares

A constructor objects to arguments of the wrong count first, then to the first one of the wrong kind,
and then to what its validator rejects; it objects to nothing else. An object that it does build has
the declared fields in their order, and each holds the last argument that is assigned to its name. So
an argument can only be lost to a later one: that every argument is assigned, and to a declared field,
has been checked when the constructor was added to its class.
-/

namespace DecoderExport

/-! ### Classes as they are declared -/

namespace ClassDef

theorem addConstructor_ok {cls added : ClassDef} {c : Constructor}
    (h : cls.addConstructor c = .ok added) :
    added.name = cls.name ∧ added.fields = cls.fields ∧
      added.constructors = cls.constructors ++ [c] := by
  unfold addConstructor at h
  split at h
  · split at h
    · cases h
    · cases h
      exact ⟨rfl, rfl, rfl⟩
  · cases h

/-- A class that has been declared step by step has its name, its fields and its constructors. -/
theorem addConstructors_ok {cls added : ClassDef} {cs : List Constructor}
    (h : cls.addConstructors cs = .ok added) :
    added.name = cls.name ∧ added.fields = cls.fields ∧
      added.constructors = cls.constructors ++ cs := by
  unfold addConstructors at h
  induction cs generalizing cls with
  | nil =>
    cases h
    exact ⟨rfl, rfl, (List.append_nil _).symm⟩
  | cons c cs ih =>
    rw [List.foldlM_cons] at h
    cases hc : cls.addConstructor c with
    | error fault =>
      rw [hc] at h
      cases h
    | ok next =>
      rw [hc] at h
      obtain ⟨hname, hfields, hconstructors⟩ := addConstructor_ok hc
      obtain ⟨hname', hfields', hconstructors'⟩ := ih h
      refine ⟨hname'.trans hname, hfields'.trans hfields, ?_⟩
      rw [hconstructors', hconstructors, List.append_assoc, List.singleton_append]

end ClassDef

/-! ### What a constructor objects to -/

/-- The values of a kind. An array is of the kind of its own class only. -/
inductive Value.OfKind : Value → ParamKind → Prop
  | text (s : String) : OfKind (.text s) .text
  | float (x : Number.Single) : OfKind (.float x) .float
  | ints (stamp : Nat) (values : List Int32) : OfKind (.ints stamp values) .ints
  | objects (stamp : Nat) (cls : String) (elements : List Value) :
    OfKind (.array stamp cls elements) (.objects cls)

theorem Value.fits_iff {v : Value} {kind : ParamKind} : v.fits kind = true ↔ v.OfKind kind := by
  constructor
  · intro h
    unfold fits at h
    split at h
    · exact .text _
    · exact .float _
    · exact .ints _ _
    · obtain rfl := of_decide_eq_true h
      exact .objects _ _ _
    · cases h
  · intro h
    cases h with
    | objects => exact decide_eq_true rfl
    | _ => rfl

/-- All arguments before an index are of the kinds of their parameters. -/
def Signature.AdmitsBefore (s : Signature) (args : List Value) (index : Nat) : Prop :=
  ∀ i v kind, i < index → args[i]? = some v → s.params[i]? = some kind → v.OfKind kind

/-- What a constructor objects to, the count of the arguments first, then the first of the wrong kind,
then what the validator says. -/
inductive Constructor.ObjectsTo (c : Constructor) (args : List Value) : Rejection Empty → Prop
  | count (h : args.length ≠ c.signature.arity) :
    ObjectsTo c args (.argumentCount c.signature.arity args.length)
  | kind {index : Nat} {v : Value} {kind : ParamKind} (hcount : args.length = c.signature.arity)
      (hbefore : c.signature.AdmitsBefore args index) (hv : args[index]? = some v)
      (hkind : c.signature.params[index]? = some kind) (h : ¬ v.OfKind kind) :
    ObjectsTo c args (.argumentKind index kind)
  | validator {message : String} (hcount : args.length = c.signature.arity)
      (hkinds : c.signature.AdmitsBefore args args.length) (h : c.Rejects args message) :
    ObjectsTo c args (.refused message)

theorem Signature.admitsBefore_zero (s : Signature) (args : List Value) :
    s.AdmitsBefore args 0 :=
  fun i _ _ hi => absurd hi (Nat.not_lt_zero i)

theorem Signature.admitsBefore_cons {v : Value} {args : List Value} {kind : ParamKind}
    {kinds : List ParamKind} {index : Nat} :
    (⟨kind :: kinds⟩ : Signature).AdmitsBefore (v :: args) (index + 1) ↔
      v.OfKind kind ∧ (⟨kinds⟩ : Signature).AdmitsBefore args index := by
  constructor
  · intro h
    exact ⟨h 0 v kind (Nat.succ_pos index) rfl rfl,
      fun i u k hi hu hk => h (i + 1) u k (Nat.succ_lt_succ hi) hu hk⟩
  · rintro ⟨hv, h⟩ i u k hi hu hk
    cases i with
    | zero =>
      cases hu
      cases hk
      exact hv
    | succ i => exact h i u k (Nat.lt_of_succ_lt_succ hi) hu hk

/-- The search for a misfit finds the first one. -/
theorem firstMisfit_eq_some_iff {args : List Value} {kinds : List ParamKind} {start n : Nat}
    {kind : ParamKind} :
    firstMisfit start args kinds = some (n, kind) ↔
      ∃ index v, n = start + index ∧ args[index]? = some v ∧ kinds[index]? = some kind ∧
        ¬ v.OfKind kind ∧ (⟨kinds⟩ : Signature).AdmitsBefore args index := by
  induction args generalizing kinds start with
  | nil => simp [firstMisfit]
  | cons u args ih =>
    cases kinds with
    | nil => simp [firstMisfit]
    | cons k kinds =>
      rw [firstMisfit]
      by_cases hfits : u.OfKind k
      · rw [if_pos (Value.fits_iff.2 hfits), ih]
        constructor
        · rintro ⟨index, v, rfl, hv, hk, hmisfit, hbefore⟩
          refine ⟨index + 1, v, by omega, hv, hk, hmisfit, ?_⟩
          exact Signature.admitsBefore_cons.2 ⟨hfits, hbefore⟩
        · rintro ⟨index, v, rfl, hv, hk, hmisfit, hbefore⟩
          cases index with
          | zero =>
            cases hv
            cases hk
            exact absurd hfits hmisfit
          | succ index =>
            exact ⟨index, v, by omega, hv, hk, hmisfit, (Signature.admitsBefore_cons.1 hbefore).2⟩
      · rw [if_neg (mt Value.fits_iff.1 hfits)]
        constructor
        · intro h
          cases h
          exact ⟨0, u, rfl, rfl, rfl, hfits, Signature.admitsBefore_zero _ _⟩
        · rintro ⟨index, v, rfl, -, hk, -, hbefore⟩
          cases index with
          | zero =>
            cases hk
            rfl
          | succ index => exact absurd (Signature.admitsBefore_cons.1 hbefore).1 hfits

theorem Signature.admits_iff {s : Signature} {args : List Value} :
    s.Admits args ↔ args.length = s.arity ∧ s.AdmitsBefore args args.length := by
  obtain ⟨kinds⟩ := s
  unfold Admits arity
  induction args generalizing kinds with
  | nil =>
    rw [List.forall₂_nil_left_iff]
    cases kinds <;> simp [admitsBefore_zero]
  | cons v args ih =>
    cases kinds with
    | nil => simp
    | cons kind kinds =>
      rw [List.forall₂_cons, ih, List.length_cons, List.length_cons, admitsBefore_cons,
        Value.fits_iff, Nat.add_right_cancel_iff]
      exact and_left_comm

namespace Constructor

variable {c : Constructor} {args : List Value}

theorem objection?_eq_some_iff {why : Rejection Empty} :
    c.objection? args = some why ↔ c.ObjectsTo args why := by
  constructor
  · intro h
    by_cases hadmits : c.signature.Admits args
    · rw [objection_of_admits hadmits, Option.map_eq_some_iff] at h
      obtain ⟨message, hmessage, rfl⟩ := h
      obtain ⟨hcount, hkinds⟩ := Signature.admits_iff.1 hadmits
      exact .validator hcount hkinds (refusal?_eq_some_iff.1 hmessage)
    · unfold objection? at h
      split at h
      · rename_i hcount
        cases h
        exact .count hcount
      · rename_i hcount
        have hcount := not_not.1 hcount
        split at h
        · rename_i n kind hmisfit
          cases h
          obtain ⟨index, v, rfl, hv, hkind, hneq, hbefore⟩ := firstMisfit_eq_some_iff.1 hmisfit
          rw [Nat.zero_add]
          exact .kind hcount hbefore hv hkind hneq
        · rename_i hfits
          exact absurd (fits_of_firstMisfit hcount hfits) hadmits
  · intro h
    cases h with
    | count h => rw [objection?, if_pos h]
    | kind hcount hbefore hv hkind h =>
      rename_i index v kind
      have hmisfit : firstMisfit 0 args c.signature.params = some (index, kind) :=
        firstMisfit_eq_some_iff.2 ⟨index, v, (Nat.zero_add _).symm, hv, hkind, h, hbefore⟩
      rw [objection?, if_neg (not_not.2 hcount), hmisfit]
    | validator hcount hkinds h =>
      rw [objection_of_admits (Signature.admits_iff.2 ⟨hcount, hkinds⟩),
        refusal?_eq_some_iff.2 h]
      rfl

theorem objection?_eq_none_iff : c.objection? args = none ↔
    args.length = c.signature.arity ∧ c.signature.AdmitsBefore args args.length ∧
      ∀ message, ¬ c.Rejects args message := by
  constructor
  · intro h
    obtain ⟨hcount, hkinds⟩ := Signature.admits_iff.1 (admits_of_no_objection h)
    refine ⟨hcount, hkinds, fun message hrejects => ?_⟩
    rw [objection?_eq_some_iff.2 (.validator hcount hkinds hrejects)] at h
    cases h
  · rintro ⟨hcount, hkinds, haccepts⟩
    rw [objection_of_admits (Signature.admits_iff.2 ⟨hcount, hkinds⟩), Option.map_eq_none_iff,
      Option.eq_none_iff_forall_ne_some]
    exact fun message hmessage => haccepts message (refusal?_eq_some_iff.1 hmessage)

end Constructor

/-! ### What a new object holds -/

/-- The last argument that is assigned to a name. -/
def Constructor.LastArgument (c : Constructor) (args : List Value) (name : String) (a : Value) :
    Prop :=
  ∃ i : Nat, c.assigns[i]? = some name ∧ args[i]? = some a ∧ ∀ j > i, c.assigns[j]? ≠ some name

/-- What reading a name of a new object gives: the last argument that is assigned to it, null if it
is declared but not assigned, and nothing if it is not declared. -/
inductive Constructor.Holds (c : Constructor) (fields : List String) (args : List Value)
    (name : String) : Option Value → Prop
  | assigned {a : Value} (hdeclared : name ∈ fields) (h : c.LastArgument args name a) :
    Holds c fields args name (some a)
  | unassigned (hdeclared : name ∈ fields) (h : name ∉ c.assigns) :
    Holds c fields args name (some .null)
  | undeclared (h : name ∉ fields) : Holds c fields args name none

namespace Constructor

variable {c : Constructor} {fields : List String} {args : List Value} {name : String}

/-- A name that is assigned has a last index in the list of assigned names. -/
theorem exists_last {names : List String} (h : name ∈ names) :
    ∃ i : Nat, names[i]? = some name ∧ ∀ j > i, names[j]? ≠ some name := by
  induction names with
  | nil => cases h
  | cons n names ih =>
    by_cases hmem : name ∈ names
    · obtain ⟨i, hi, hlast⟩ := ih hmem
      refine ⟨i + 1, hi, fun j hj => ?_⟩
      obtain ⟨k, rfl⟩ : ∃ k, j = k + 1 := ⟨j - 1, by omega⟩
      exact hlast k (by omega)
    · obtain rfl := (List.mem_cons.1 h).resolve_right hmem
      refine ⟨0, rfl, fun j hj hname => hmem ?_⟩
      obtain ⟨k, rfl⟩ : ∃ k, j = k + 1 := ⟨j - 1, by omega⟩
      exact List.mem_of_getElem? hname

theorem exists_lastArgument (hcount : args.length = c.assigns.length) (h : name ∈ c.assigns) :
    ∃ a, c.LastArgument args name a := by
  obtain ⟨i, hi, hlast⟩ := exists_last h
  obtain ⟨hlt, -⟩ := List.getElem?_eq_some_iff.1 hi
  exact ⟨args[i], i, hi, List.getElem?_eq_getElem (by omega), hlast⟩

end Constructor

/-- A class reads the last argument that is assigned to a declared name. -/
theorem ClassDef.reading?_of_lastArgument {cls : ClassDef} {c : Constructor} {args : List Value}
    {name : String} {a : Value} (hmem : name ∈ cls.fields) (h : c.LastArgument args name a) :
    cls.reading? c args .null name = some a := by
  obtain ⟨i, hname, ha, hlast⟩ := h
  refine reading?_of_last hmem hname ha ?_ .null
  intro hlater
  obtain ⟨k, hk⟩ := List.getElem?_of_mem hlater
  rw [List.getElem?_drop] at hk
  exact hlast (i + 1 + k) (by omega) hk

/-- A name that no argument is assigned to is read as null. -/
theorem ClassDef.reading?_of_not_assigned {cls : ClassDef} {c : Constructor} {args : List Value}
    {name : String} (hmem : name ∈ cls.fields) (h : name ∉ c.assigns) :
    cls.reading? c args .null name = some .null := by
  have hnone : (c.assigns.zip args).reverse.lookup name = none := by
    rw [List.lookup_eq_none_iff]
    intro entry hentry
    have hne : name ≠ entry.1 := by
      rintro rfl
      exact h (List.of_mem_zip (List.mem_reverse.1 hentry)).1
    exact bne_iff_ne.2 hne
  rw [reading?, if_pos hmem, hnone, Option.getD_none]

/-- Reading any name of a new object gives what the constructor says. -/
theorem Constructor.holds_of_make {cls : ClassDef} {c : Constructor} (hc : c ∈ cls.constructors)
    {stamp : Nat} {args : List Value} {v : Value} (h : cls.make c stamp args = .ok v)
    (name : String) : c.Holds cls.fields args name (v.field? name) := by
  obtain ⟨hassigns, hdeclared⟩ := cls.suited c hc
  have hcount := (objection?_eq_none_iff.1 (ClassDef.objection_of_make h)).1
  rw [ClassDef.field?_of_make h]
  by_cases hmem : name ∈ cls.fields
  · by_cases hassigned : name ∈ c.assigns
    · obtain ⟨a, ha⟩ := exists_lastArgument (hcount.trans hassigns.symm) hassigned
      rw [ClassDef.reading?_of_lastArgument hmem ha]
      exact .assigned hmem ha
    · rw [ClassDef.reading?_of_not_assigned hmem hassigned]
      exact .unassigned hmem hassigned
  · rw [ClassDef.reading?, if_neg hmem]
    exact .undeclared hmem

/-- An argument is read back from the field that it is assigned to, unless a later one is assigned
there. -/
theorem Constructor.kept_or_replaced {cls : ClassDef} {c : Constructor}
    (hc : c ∈ cls.constructors) {stamp : Nat} {args : List Value} {v a : Value}
    (h : cls.make c stamp args = .ok v) {i : Nat} (ha : args[i]? = some a) :
    ∃ name, c.assigns[i]? = some name ∧
      (v.field? name = some a ∨ ∃ j > i, c.assigns[j]? = some name) := by
  obtain ⟨hassigns, hdeclared⟩ := cls.suited c hc
  have hcount := (objection?_eq_none_iff.1 (ClassDef.objection_of_make h)).1
  obtain ⟨hlt, -⟩ := List.getElem?_eq_some_iff.1 ha
  have hname : c.assigns[i]? = some c.assigns[i] := List.getElem?_eq_getElem (by omega)
  refine ⟨_, hname, ?_⟩
  by_cases hlater : ∃ j > i, c.assigns[j]? = some c.assigns[i]
  · exact .inr hlater
  · left
    rw [ClassDef.field?_of_make h]
    refine ClassDef.reading?_of_lastArgument (hdeclared _ (List.mem_of_getElem? hname))
      ⟨i, hname, ha, fun j hj hsame => hlater ⟨j, hj, hsame⟩⟩

/-- Building an object does what the class declares, for every constructor that the class has been
declared with: it succeeds exactly if there is nothing to object to, it fails with the first
objection, and a new object holds in each of its fields the last argument that is assigned to it. No
argument is lost, but to a later one under the same name. -/
theorem new_object_as_declared {name : String} {fields : List String} {cs : List Constructor}
    {cls : ClassDef} (hbuilt : (ClassDef.new name fields).addConstructors cs = .ok cls)
    {c : Constructor} (hc : c ∈ cs) (args : List (Arg Value)) (w : World) :
    let given := args.map Arg.toValue
    let reply : Reply World Empty Value := Host.newObject cls c args w
    ((∃ v, reply.1 = .ok v) ↔
      given.length = c.signature.arity ∧
        (∀ (i : Nat) v kind, given[i]? = some v → c.signature.params[i]? = some kind →
          v.OfKind kind) ∧
        ∀ message, ¬ c.Rejects given message) ∧
      (∀ f, reply.1 = .error f ↔ ∃ why, f = .construction name why ∧ c.ObjectsTo given why) ∧
      ∀ v, reply.1 = .ok v →
        v.class? = some name ∧ v.names = fields ∧
          (∀ n, c.Holds fields given n (v.field? n)) ∧
          ∀ (i : Nat) a, given[i]? = some a → ∃ n, c.assigns[i]? = some n ∧
            (v.field? n = some a ∨ ∃ j > i, c.assigns[j]? = some n) := by
  intro given reply
  obtain ⟨rfl, rfl, hconstructors⟩ := ClassDef.addConstructors_ok hbuilt
  have hmem : c ∈ cls.constructors := by
    rw [hconstructors]
    exact hc
  have hreply : reply.1 = cls.make c w.minted given := by
    show (Host.newObject cls c args w).1 = _
    rw [World.newObject_eq]
  rw [hreply]
  refine ⟨?_, ?_, ?_⟩
  · have hkinds : c.signature.AdmitsBefore given given.length ↔ ∀ (i : Nat) v kind,
        given[i]? = some v → c.signature.params[i]? = some kind → v.OfKind kind := by
      refine ⟨fun h i v kind hv => h i v kind ?_ hv, fun h i v kind _ => h i v kind⟩
      exact (List.getElem?_eq_some_iff.1 hv).1
    rw [← hkinds, ← Constructor.objection?_eq_none_iff]
    constructor
    · rintro ⟨v, hv⟩
      exact ClassDef.objection_of_make hv
    · intro h
      exact ⟨_, by rw [ClassDef.make, h]⟩
  · intro f
    simp only [← Constructor.objection?_eq_some_iff]
    unfold ClassDef.make
    cases c.objection? given with
    | none => simp
    | some why => simp [eq_comm]
  · intro v hv
    refine ⟨ClassDef.class?_of_make hv, (Value.renders_of_make hv).1,
      fun n => Constructor.holds_of_make hmem hv n, fun i a ha => ?_⟩
    exact Constructor.kept_or_replaced hmem hv ha

theorem new_object_as_declared_repeated :
    let c : Constructor := ⟨⟨[.text, .objects "I", .text]⟩, ["a", "b", "a"], none⟩
    let given : List Value := [.text "x", .array 0 "I" [], .text "y"]
    ∃ cls, (ClassDef.new "C" ["b", "a", "d", "a"]).addConstructors [c] = .ok cls ∧ c ∈ [c] ∧
      ∃ v, (Host.newObject cls c (given.map Arg.object) (⟨.empty, 1⟩ : World)).1 = .ok v ∧
        v.names = ["b", "a", "d", "a"] ∧ v.field? "a" = some (.text "y") ∧
        ∀ n, c.Holds ["b", "a", "d", "a"] given n (v.field? n) := by
  intro c given
  have hmem : c ∈ [c] := List.mem_singleton.2 rfl
  have hbuilt : (ClassDef.new "C" ["b", "a", "d", "a"]).addConstructors [c] = .ok _ := rfl
  refine ⟨_, hbuilt, hmem, _, rfl, ?_⟩
  obtain ⟨-, -, hnew⟩ := new_object_as_declared hbuilt hmem (given.map Arg.object) ⟨.empty, 1⟩
  obtain ⟨-, hnames, hholds, -⟩ := hnew _ rfl
  exact ⟨hnames, rfl, hholds⟩

end DecoderExport
