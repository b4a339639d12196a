import DecoderExport.Proofs.Construction
import Mathlib.Data.String.Basic

/-!
# What an object shows of its fields

A constructor writes each argument into the first field with the assigned name, reading takes the
first field with a name, and the JSON form keeps the last of the fields with one name. All three
meet in the same field exactly if the name is declared once. A field whose name has been declared
before is never written, so a name that is declared more than once shows as null, whatever its first
field holds.
-/

namespace DecoderExport

open DecoderExport.Json (Tree putMember)

/-! ### Members in order of their keys -/

namespace Json

theorem lookup_cons_eq {α : Type} (n k : String) (v : α) (rest : List (String × α)) :
    List.lookup n ((k, v) :: rest) = if n = k then some v else rest.lookup n := by
  by_cases h : n = k
  · rw [h, List.lookup_cons_self, if_pos rfl]
  · simp only [List.lookup_cons, beq_false_of_ne h, if_neg h]

variable (key : String) (t : Tree)

theorem lookup_putMember (members : List (String × Tree)) (n : String) :
    (putMember key t members).lookup n = if n = key then some t else members.lookup n := by
  induction members with
  | nil => exact lookup_cons_eq n key t []
  | cons m rest ih =>
    obtain ⟨k, u⟩ := m
    unfold putMember
    split
    · exact lookup_cons_eq n key t _
    · split
      · rename_i hk
        subst hk
        by_cases h : n = key <;> simp only [lookup_cons_eq, h, if_true, if_false]
      · rename_i hk
        rw [lookup_cons_eq, lookup_cons_eq, ih]
        by_cases h : n = k
        · simp only [h, if_true, if_neg (Ne.symm hk)]
        · simp only [h, if_false]

theorem mem_keys_putMember (members : List (String × Tree)) (n : String) :
    n ∈ (putMember key t members).map Prod.fst ↔ n = key ∨ n ∈ members.map Prod.fst := by
  induction members with
  | nil => simp [putMember]
  | cons m rest ih =>
    obtain ⟨k, u⟩ := m
    unfold putMember
    split
    · simp
    · split
      · rename_i hk
        simp [hk]
      · rw [List.map_cons, List.mem_cons, ih, List.map_cons, List.mem_cons]
        exact or_left_comm

theorem sorted_putMember {members : List (String × Tree)}
    (h : (members.map Prod.fst).Pairwise (· < ·)) :
    ((putMember key t members).map Prod.fst).Pairwise (· < ·) := by
  induction members with
  | nil => simp [putMember]
  | cons m rest ih =>
    obtain ⟨k, u⟩ := m
    obtain ⟨hk, hrest⟩ := List.pairwise_cons.1 h
    unfold putMember
    split
    · rename_i hlt
      refine List.pairwise_cons.2 ⟨?_, h⟩
      exact List.forall_mem_cons.2 ⟨hlt, fun n hn => lt_trans hlt (hk n hn)⟩
    · split
      · rename_i heq
        subst heq
        exact List.pairwise_cons.2 ⟨hk, hrest⟩
      · rename_i hle hne
        refine List.pairwise_cons.2 ⟨?_, ih hrest⟩
        intro n hn
        rcases (mem_keys_putMember key t rest n).1 hn with rfl | hn
        · exact lt_of_le_of_ne (not_lt.1 hle) (Ne.symm hne)
        · exact hk n hn

/-- The keys of an object stand in order, each once, and the last member with a key stays. -/
theorem ofMembers_eq (members : List (String × Tree)) :
    ∃ sorted, Tree.ofMembers members = .object sorted ∧
      (sorted.map Prod.fst).Pairwise (· < ·) ∧
      (∀ n, n ∈ sorted.map Prod.fst ↔ n ∈ members.map Prod.fst) ∧
      ∀ n, sorted.lookup n = members.reverse.lookup n := by
  refine ⟨_, rfl, ?_⟩
  suffices h : ∀ held : List (String × Tree), (held.map Prod.fst).Pairwise (· < ·) →
      let sorted := members.foldl (fun sorted m => putMember m.1 m.2 sorted) held
      (sorted.map Prod.fst).Pairwise (· < ·) ∧
      (∀ n, n ∈ sorted.map Prod.fst ↔ n ∈ held.map Prod.fst ∨ n ∈ members.map Prod.fst) ∧
      ∀ n, sorted.lookup n = (members.reverse.lookup n).or (held.lookup n) by
    simpa using h [] .nil
  induction members with
  | nil => simp
  | cons m rest ih =>
    intro held hheld
    obtain ⟨hsorted, hkeys, hlookup⟩ := ih _ (sorted_putMember m.1 m.2 hheld)
    refine ⟨hsorted, ?_, ?_⟩
    · intro n
      rw [List.foldl_cons, hkeys, mem_keys_putMember, List.map_cons, List.mem_cons]
      tauto
    · intro n
      rw [List.foldl_cons, hlookup, lookup_putMember, List.reverse_cons, List.lookup_append,
        lookup_cons_eq, Option.or_assoc]
      by_cases h : n = m.1
      · simp only [h, if_true, Option.some_or]
      · simp only [h, if_false, List.lookup_nil, Option.none_or]

end Json

/-! ### Fields of a new object -/

/-- Of several fields with one name all but the first are null. -/
def RepeatsNull (fields : List (String × Value)) : Prop :=
  fields.Pairwise fun a b => a.1 = b.1 → b.2 = .null

theorem names_assign (name : String) (v : Value) (fields : List (String × Value)) :
    (assign name v fields).map Prod.fst = fields.map Prod.fst := by
  induction fields with
  | nil => rfl
  | cons f rest ih =>
    obtain ⟨n, x⟩ := f
    unfold assign
    split
    · rfl
    · rw [List.map_cons, List.map_cons, ih]

theorem mem_of_mem_assign {name : String} {v : Value} {fields : List (String × Value)}
    {f : String × Value} (h : f ∈ assign name v fields) : f = (name, v) ∨ f ∈ fields := by
  induction fields with
  | nil => exact .inr h
  | cons g rest ih =>
    obtain ⟨n, x⟩ := g
    unfold assign at h
    split at h
    · rename_i hn
      rcases List.mem_cons.1 h with rfl | h
      · exact .inl (by rw [hn])
      · exact .inr (List.mem_cons_of_mem _ h)
    · rcases List.mem_cons.1 h with rfl | h
      · exact .inr List.mem_cons_self
      · exact (ih h).imp_right (List.mem_cons_of_mem _)

theorem RepeatsNull.assign {fields : List (String × Value)} (h : RepeatsNull fields)
    (name : String) (v : Value) : RepeatsNull (assign name v fields) := by
  induction fields with
  | nil => exact h
  | cons f rest ih =>
    obtain ⟨n, x⟩ := f
    obtain ⟨hhead, hrest⟩ := List.pairwise_cons.1 h
    unfold DecoderExport.assign
    split
    · exact List.pairwise_cons.2 ⟨hhead, hrest⟩
    · rename_i hn
      refine List.pairwise_cons.2 ⟨?_, ih hrest⟩
      intro g hg hname
      rcases mem_of_mem_assign hg with rfl | hg
      · exact absurd hname hn
      · exact hhead g hg hname

/-- Whatever is assigned, the names stay the declared ones, and only the first field with a name is
written. -/
theorem initialFields_spec (declared assigned : List String) (args : List Value) :
    (initialFields declared assigned args).map Prod.fst = declared ∧
      RepeatsNull (initialFields declared assigned args) := by
  suffices h : ∀ fields : List (String × Value), RepeatsNull fields →
      let written := (assigned.zip args).foldl
        (fun fields entry => assign entry.1 entry.2 fields) fields
      written.map Prod.fst = fields.map Prod.fst ∧ RepeatsNull written by
    have hnull : RepeatsNull (declared.map fun name => (name, .null)) :=
      List.pairwise_map.2 (List.pairwise_of_forall fun _ _ _ => rfl)
    obtain ⟨hnames, hrepeats⟩ := h _ hnull
    refine ⟨hnames.trans ?_, hrepeats⟩
    rw [List.map_map]
    exact List.map_id _
  induction assigned.zip args with
  | nil => exact fun fields h => ⟨rfl, h⟩
  | cons entry rest ih =>
    intro fields h
    obtain ⟨hnames, hrepeats⟩ := ih _ (h.assign entry.1 entry.2)
    exact ⟨hnames.trans (names_assign _ _ _), hrepeats⟩

theorem lookup_assign (name : String) (v : Value) (fields : List (String × Value)) (n : String) :
    (assign name v fields).lookup n =
      if n = name then (fields.lookup n).map fun _ => v else fields.lookup n := by
  induction fields with
  | nil => simp [assign]
  | cons f rest ih =>
    obtain ⟨k, x⟩ := f
    unfold assign
    split
    · rename_i hk
      subst hk
      by_cases h : n = k <;> simp [Json.lookup_cons_eq, h]
    · rename_i hk
      by_cases h : n = k
      · subst h
        simp [hk]
      · simp only [Json.lookup_cons_eq, if_neg h, ih]

/-- What a field of a new object holds: of the arguments that are assigned to it the last one. -/
def ClassDef.reading? {α : Type} (cls : ClassDef) (c : Constructor) (args : List α) (null : α)
    (name : String) : Option α :=
  if name ∈ cls.fields then some (((c.assigns.zip args).reverse.lookup name).getD null) else none

theorem ClassDef.field?_of_make {cls : ClassDef} {c : Constructor} {stamp : Nat}
    {args : List Value} {v : Value} (h : cls.make c stamp args = .ok v) (name : String) :
    v.field? name = cls.reading? c args .null name := by
  rw [eq_of_make h, Value.field?, initialFields, reading?]
  have hnull : (cls.fields.map fun n => (n, Value.null)).lookup name =
      if name ∈ cls.fields then some .null else none := by
    induction cls.fields with
    | nil => rfl
    | cons n fields ih =>
      rw [List.map_cons, Json.lookup_cons_eq, ih]
      by_cases hn : name = n <;> simp [hn]
  -- whatever the fields hold at first, the last assignment is the one that stays
  suffices hwritten : ∀ fields : List (String × Value),
      ((c.assigns.zip args).foldl (fun fields entry => assign entry.1 entry.2 fields) fields).lookup
        name = (fields.lookup name).map
          (((c.assigns.zip args).reverse.lookup name).getD ·) by
    refine (hwritten _).trans ?_
    rw [hnull]
    split <;> rfl
  induction c.assigns.zip args with
  | nil => intro fields; simp
  | cons entry rest ih =>
    intro fields
    rw [List.foldl_cons, ih, lookup_assign, List.reverse_cons, List.lookup_append,
      Json.lookup_cons_eq]
    by_cases hn : name = entry.1
    · simp only [hn, if_true, Option.map_map]
      cases rest.reverse.lookup entry.1 <;> rfl
    · simp only [if_neg hn, List.lookup_nil, Option.or_none]

theorem ClassDef.reading?_map {α β : Type} (f : α → β) (cls : ClassDef) (c : Constructor)
    (args : List α) (null : α) (name : String) :
    cls.reading? c (args.map f) (f null) name = (cls.reading? c args null name).map f := by
  have hlookup : ∀ entries : List (String × α),
      (entries.map (Prod.map id f)).lookup name = (entries.lookup name).map f := by
    intro entries
    induction entries with
    | nil => rfl
    | cons entry rest ih =>
      rw [List.map_cons, Prod.map, Json.lookup_cons_eq, Json.lookup_cons_eq, ih, apply_ite
        (Option.map f)]
      rfl
  unfold reading?
  rw [List.zip_map_right, ← List.map_reverse, hlookup]
  split
  · cases (c.assigns.zip args).reverse.lookup name <;> rfl
  · rfl

/-- An argument is read back unless a later one is assigned to the same field. -/
theorem ClassDef.reading?_of_last {α : Type} {cls : ClassDef} {c : Constructor} {args : List α}
    {a : α} {i : Nat} {name : String} (hmem : name ∈ cls.fields)
    (hname : c.assigns[i]? = some name) (ha : args[i]? = some a)
    (hlast : name ∉ c.assigns.drop (i + 1)) (null : α) :
    cls.reading? c args null name = some a := by
  have hentry : (c.assigns.zip args)[i]? = some (name, a) :=
    List.getElem?_zip_eq_some.2 ⟨hname, ha⟩
  obtain ⟨hi, hget⟩ := List.getElem?_eq_some_iff.1 hentry
  have hsplit : (c.assigns.zip args).take i ++ (name, a) :: (c.assigns.zip args).drop (i + 1) =
      c.assigns.zip args := by
    rw [← hget, List.getElem_cons_drop, List.take_append_drop]
  have hlater : ∀ entry ∈ ((c.assigns.zip args).drop (i + 1)).reverse, (name != entry.1) = true := by
    intro entry hin
    rw [List.mem_reverse, List.zip, List.drop_zipWith] at hin
    refine bne_iff_ne.2 ?_
    rintro rfl
    exact hlast (List.of_mem_zip hin).1
  have hlookup : (c.assigns.zip args).reverse.lookup name = some a := by
    have hreverse := congrArg List.reverse hsplit
    rw [List.reverse_append, List.reverse_cons, List.append_assoc] at hreverse
    exact List.lookup_eq_some_iff.2 ⟨_, _, hreverse.symm, hlater⟩
  rw [reading?, if_pos hmem, hlookup, Option.getD_some]

/-- The last field with a name is the first one if there is no other, and otherwise null. -/
theorem RepeatsNull.lookup_reverse {fields : List (String × Value)} (h : RepeatsNull fields)
    {n : String} (hn : n ∈ fields.map Prod.fst) :
    ∃ x, fields.lookup n = some x ∧ fields.reverse.lookup n =
      some (if (fields.map Prod.fst).count n = 1 then x else .null) := by
  induction fields with
  | nil => cases hn
  | cons f rest ih =>
    obtain ⟨k, y⟩ := f
    obtain ⟨hhead, hrest⟩ := List.pairwise_cons.1 h
    rw [Json.lookup_cons_eq, List.reverse_cons, List.lookup_append, Json.lookup_cons_eq,
      List.map_cons]
    by_cases hk : n = k
    · subst hk
      refine ⟨y, if_pos rfl, ?_⟩
      by_cases hmem : n ∈ rest.map Prod.fst
      · -- The last field with the name lies further down, so it is null.
        obtain ⟨x, hx, hlast⟩ := ih hrest hmem
        have hnull : x = .null := by
          obtain ⟨before, after, hrest, -⟩ := List.lookup_eq_some_iff.1 hx
          exact hhead (n, x) (by simp [hrest]) rfl
        rw [hlast, hnull, ite_self, Option.some_or, List.count_cons_self, if_neg]
        exact Nat.succ_ne_succ_iff.2 (List.count_pos_iff.2 hmem).ne'
      · have hnone : rest.reverse.lookup n = none := by
          rw [List.lookup_eq_none_iff]
          intro g hg
          have hne : n ≠ g.1 := by
            rintro rfl
            exact hmem (List.mem_map_of_mem (List.mem_reverse.1 hg))
          exact bne_iff_ne.2 hne
        rw [hnone, Option.none_or, if_pos rfl, List.count_cons_self,
          List.count_eq_zero_of_not_mem hmem, if_pos rfl]
    · obtain ⟨x, hx, hlast⟩ := ih hrest ((List.mem_cons.1 hn).resolve_left hk)
      refine ⟨x, by rw [if_neg hk, hx], ?_⟩
      rw [hlast, Option.some_or, List.count_cons_of_ne (Ne.symm hk)]

/-! ### Objects and what is nested in them -/

namespace Value

/-- A value in which constructors have built all objects, at every depth. Anything else may have
been put together in any way: an array may be called after any class and have any elements. -/
inductive Made : Value → Prop
  | null : Made null
  | text (s : String) : Made (text s)
  | float (x : Number.Single) : Made (float x)
  | ints (stamp : Nat) (values : List Int32) : Made (ints stamp values)
  | array (stamp : Nat) (cls : String) {elements : List Value}
    (elementsMade : ∀ x ∈ elements, Made x) : Made (array stamp cls elements)
  | object (cls : ClassDef) (c : Constructor) (stamp : Nat) {args : List Value} {v : Value}
    (argsMade : ∀ x ∈ args, Made x) (h : cls.make c stamp args = .ok v) : Made v

/-- A value is read from another one, by way of fields and elements. -/
inductive Within : Value → Value → Prop
  | self (v : Value) : Within v v
  | field {x y v : Value} {name : String} (h : v.field? name = some y) (hx : Within x y) :
    Within x v
  | element {x y v : Value} {elements : List Value} (h : v.elements? = some elements)
    (hy : y ∈ elements) (hx : Within x y) : Within x v

/-- The names of the fields of an object, as they have been declared. -/
def names : Value → List String
  | object _ _ fields => fields.map Prod.fst
  | _ => []

/-- The JSON form of an object has each name once for a key. Under a name that is declared once it
shows what the field holds, and under any other name null. -/
def Renders (v : Value) : Prop :=
  ∃ members, v.toJson = .object members ∧ (members.map Prod.fst).Pairwise (· < ·) ∧
    (∀ n, n ∈ members.map Prod.fst ↔ n ∈ v.names) ∧
    ∀ n ∈ v.names, ∃ x, v.field? n = some x ∧
      members.lookup n = some (if v.names.count n = 1 then x.toJson else .null)

theorem fieldsJson_eq_map (fields : List (String × Value)) :
    fieldsJson fields = fields.map fun (n, x) => (n, x.toJson) := by
  induction fields with
  | nil => rfl
  | cons f rest ih =>
    obtain ⟨n, x⟩ := f
    rw [fieldsJson, ih]
    rfl

theorem lookup_map_toJson (fields : List (String × Value)) (n : String) :
    (fields.map fun (n, x) => (n, x.toJson)).lookup n = (fields.lookup n).map toJson := by
  induction fields with
  | nil => rfl
  | cons f rest ih =>
    obtain ⟨k, x⟩ := f
    rw [List.map_cons, Json.lookup_cons_eq, Json.lookup_cons_eq, ih]
    split <;> rfl

theorem renders_of_repeatsNull (stamp : Nat) (cls : String) {fields : List (String × Value)}
    (h : RepeatsNull fields) : (object stamp cls fields).Renders := by
  obtain ⟨members, hmembers, hsorted, hkeys, hlookup⟩ := Json.ofMembers_eq (fieldsJson fields)
  have hnames : (fieldsJson fields).map Prod.fst = fields.map Prod.fst := by
    rw [fieldsJson_eq_map, List.map_map]
    rfl
  refine ⟨members, hmembers, hsorted, fun n => by rw [hkeys, hnames]; rfl, ?_⟩
  intro n hn
  obtain ⟨x, hx, hlast⟩ := h.lookup_reverse hn
  refine ⟨x, hx, ?_⟩
  rw [hlookup, fieldsJson_eq_map, ← List.map_reverse, lookup_map_toJson, hlast, Option.map_some,
    names]
  split <;> rfl

/-- An object that a constructor has built shows the fields that its class declares. -/
theorem renders_of_make {cls : ClassDef} {c : Constructor} {stamp : Nat} {args : List Value}
    {v : Value} (h : cls.make c stamp args = .ok v) : v.names = cls.fields ∧ v.Renders := by
  obtain ⟨hnames, hrepeats⟩ := initialFields_spec cls.fields c.assigns args
  rw [ClassDef.eq_of_make h]
  exact ⟨hnames, renders_of_repeatsNull _ _ hrepeats⟩

/-- Fields hold null or what has been assigned to them. -/
theorem mem_initialFields {declared assigned : List String} {args : List Value}
    {f : String × Value} (h : f ∈ initialFields declared assigned args) :
    f.2 = .null ∨ f.2 ∈ args := by
  have hwritten : ∀ (entries fields : List (String × Value)),
      f ∈ entries.foldl (fun fields entry => assign entry.1 entry.2 fields) fields →
        f ∈ fields ∨ f ∈ entries := by
    intro entries
    induction entries with
    | nil => exact fun fields hf => .inl hf
    | cons entry rest ih =>
      intro fields hf
      rcases ih _ hf with hf | hf
      · rcases mem_of_mem_assign hf with rfl | hf
        · exact .inr List.mem_cons_self
        · exact .inl hf
      · exact .inr (List.mem_cons_of_mem _ hf)
  rcases hwritten _ _ h with hf | hf
  · obtain ⟨name, -, rfl⟩ := List.mem_map.1 hf
    exact .inl rfl
  · exact .inr (List.of_mem_zip hf).2

theorem Made.field {v x : Value} {name : String} (hv : v.Made) (h : v.field? name = some x) :
    x.Made := by
  cases hv with
  | object cls c stamp hargs hmake =>
    rw [ClassDef.eq_of_make hmake] at h
    obtain ⟨before, after, hfields, -⟩ := List.lookup_eq_some_iff.1 h
    have hmem : (name, x) ∈ before ++ (name, x) :: after :=
      List.mem_append_right _ List.mem_cons_self
    rw [← hfields] at hmem
    rcases mem_initialFields hmem with hnull | harg
    · rw [show x = .null from hnull]
      exact .null
    · exact hargs x harg
  | _ => cases h

theorem Made.element {v x : Value} {elements : List Value} (hv : v.Made)
    (h : v.elements? = some elements) (hx : x ∈ elements) : x.Made := by
  cases hv with
  | object cls c stamp _ hmake =>
    rw [ClassDef.eq_of_make hmake] at h
    cases h
  | array stamp cls helements =>
    cases h
    exact helements x hx
  | _ => cases h

/-- What is read from a made value is made. -/
theorem Made.within {v x : Value} (hv : v.Made) (h : x.Within v) : x.Made := by
  induction h with
  | self => exact hv
  | field h _ ih => exact ih (hv.field h)
  | element h hy _ ih => exact ih (hv.element h hy)

/-- A made object has been built by a constructor. -/
theorem Made.exists_make {v : Value} (hv : v.Made) (h : v.class?.isSome = true) :
    ∃ (cls : ClassDef) (c : Constructor) (stamp : Nat) (args : List Value),
      cls.make c stamp args = .ok v := by
  cases hv with
  | object cls c stamp _ hmake => exact ⟨cls, c, stamp, _, hmake⟩
  | _ => cases h

end Value

/-- A new object shows each field that its class declares. If constructors have built the objects in
its arguments, then so does every object that is nested in it, whatever class that one was built
from. -/
theorem renders_declared_fields {cls : ClassDef} {c : Constructor} {args : List (Arg Value)}
    {w : World} {v : Value} (h : (Host.newObject cls c args w).1 = .ok v) :
    v.names = cls.fields ∧ v.Renders ∧
      ((∀ a ∈ args, a.toValue.Made) → ∀ x, x.Within v → x.class?.isSome = true →
        ∃ (k : ClassDef) (d : Constructor) (stamp : Nat) (given : List Value),
          k.make d stamp given = .ok x ∧ x.names = k.fields ∧ x.Renders) := by
  rw [World.newObject_eq] at h
  refine ⟨(Value.renders_of_make h).1, (Value.renders_of_make h).2, ?_⟩
  intro hargs x hx hobject
  have hmade : v.Made := by
    refine .object cls c w.minted ?_ h
    exact List.forall_mem_map.2 hargs
  obtain ⟨k, d, stamp, given, hmake⟩ := (hmade.within hx).exists_make hobject
  exact ⟨k, d, stamp, given, hmake, Value.renders_of_make hmake⟩

/-- The object lies in an array that no operation would have made, beside a text. -/
theorem renders_declared_fields_nested :
    let leaf : Constructor := ⟨⟨[.text]⟩, ["a"], none⟩
    let inner : ClassDef :=
      ⟨"I", ["a", "a"], [leaf], by simp [leaf, Constructor.Suits, Signature.arity]⟩
    let node : Constructor := ⟨⟨[.objects "I", .float]⟩, ["items", "x"], none⟩
    let outer : ClassDef :=
      ⟨"O", ["x", "items", "x"], [node], by simp [node, Constructor.Suits, Signature.arity]⟩
    let x : Value := .object 0 "I" [("a", .text "x"), ("a", .null)]
    let one := Number.Binary.ofNat Number.single false 1
    let items : Value := .array 1 "I" [.text "y", x]
    let args : List (Arg Value) := [.object items, .float one]
    let v : Value := .object 2 "O" [("x", .float one), ("items", items), ("x", .null)]
    inner.make leaf 0 [.text "x"] = .ok x ∧ (∀ a ∈ args, a.toValue.Made) ∧
      (Host.newObject outer node args (⟨.empty, 2⟩ : World)).1 = .ok v ∧ x.Within v ∧
      v.names = ["x", "items", "x"] ∧ v.Renders ∧ x.Renders := by
  intro leaf inner node outer x one items args v
  have hleaf : inner.make leaf 0 [.text "x"] = .ok x := rfl
  have hx : x.Made :=
    .object inner leaf 0 (List.forall_mem_singleton.2 (.text "x")) hleaf
  have hitems : items.Made :=
    .array 1 "I" (List.forall_mem_cons.2 ⟨.text "y", List.forall_mem_singleton.2 hx⟩)
  have hargs : ∀ a ∈ args, a.toValue.Made :=
    List.forall_mem_cons.2 ⟨hitems, List.forall_mem_singleton.2 (.float one)⟩
  have hnew : (Host.newObject outer node args (⟨.empty, 2⟩ : World)).1 = .ok v := rfl
  have helement : x.Within items :=
    .element rfl (List.mem_cons_of_mem _ List.mem_cons_self) (.self x)
  have hwithin : x.Within v := .field (show v.field? "items" = some _ from rfl) helement
  obtain ⟨hnames, hrenders, hnested⟩ := renders_declared_fields hnew
  obtain ⟨-, -, -, -, -, -, hshown⟩ := hnested hargs x hwithin rfl
  exact ⟨hleaf, hargs, hnew, hwithin, hnames, hrenders, hshown⟩

/-- A class whose objects hold a text in the first of two fields with one name shows no text. -/
theorem repeated_name_shows_null :
    ∃ cls, (ClassDef.new "C" ["a", "a"]).addConstructor ⟨⟨[.text]⟩, ["a"], none⟩ = .ok cls ∧
      ∃ v, (Host.newObject cls ⟨⟨[.text]⟩, ["a"], none⟩ [.text "x"] (⟨.empty, 0⟩ : World)).1 =
          .ok v ∧
        v.field? "a" = some (.text "x") ∧ v.toJson = .object [("a", .null)] ∧
        ¬ ∀ n ∈ cls.fields, ∀ x members, v.field? n = some x → v.toJson = .object members →
          members.lookup n = some x.toJson := by
  refine ⟨_, rfl, _, rfl, rfl, rfl, ?_⟩
  intro h
  cases h "a" (by decide) _ _ rfl rfl

end DecoderExport
