import DecoderExport.Proofs.Spelling

/-!
# How records are spelled

A record is written as an object with its fields in any order and any other members between them, or
as an array of its fields. `Shape.Follows` ties a shape to such spellings: whatever fields have been
read, the draft holds exactly these. From it, one member and one slot are one step of the reader
each, and by induction every spelling of a record is read as the record. The same steps lead to the
places where reading must fail.
-/

namespace DecoderExport.Json

/-- How a field of a record may be written. -/
structure FieldSpelling (α : Type) where
  name : String
  spelled : α → Spelling
  /-- The records that may be written without the field. -/
  optional : α → Prop

/-- A key with its colon, up to the value behind it. -/
def Key (name : String) : Spelling := fun s t =>
  ∃ u v, Text name s u ∧ Blanks u (':' :: v) ∧ Blanks v t

section

variable {α : Type} (fields : List (FieldSpelling α)) (a : α)

/-- The members with a key: the field of this name with its value, or any value behind a key that
names no field. -/
def Member (key : String) : Spelling := fun s t =>
  ∃ u, Key key s u ∧ match fields.find? (·.name = key) with
    | some field => field.spelled a u t
    | none => WellFormed none u t

/-- No field is written twice. -/
def Distinct (keys : List String) : Prop := ∀ field ∈ fields, keys.count field.name ≤ 1

instance (keys : List String) : Decidable (Distinct fields keys) :=
  inferInstanceAs (Decidable (∀ field ∈ fields, keys.count field.name ≤ 1))

/-- A record as an object: each field at most once, and the others in any number. -/
def ObjectForm : Spelling := fun s t =>
  ∃ keys, Distinct fields keys ∧ (∀ field ∈ fields, field.name ∉ keys → field.optional a) ∧
    Enclosed .object (keys.map (Member fields a)) s t

/-- A record as an array of its fields, without some of the last ones. -/
def ArrayForm : Spelling := fun s t =>
  ∃ held omitted, fields = held ++ omitted ∧ (∀ field ∈ omitted, field.optional a) ∧
    Enclosed .list (held.map (·.spelled a)) s t

/-- The spellings of a record. -/
def RecordForm : Spelling := fun s t => ObjectForm fields a s t ∨ ArrayForm fields a s t

/-- An object up to a key that repeats the name of a field; any text may follow it. -/
def RepeatedKey (name : String) (s : List Char) : Prop :=
  ∃ keys, Distinct fields keys ∧ name ∈ keys ∧ (∃ field ∈ fields, field.name = name) ∧
    EnclosedUntil .object (keys.map (Member fields a)) (fun x => ∃ u, Text name x u) s

/-- A record up to the value of a field, from which on the text has a property. -/
def RecordUntil (field : FieldSpelling α) (q : List Char → Prop) (s : List Char) : Prop :=
  (∃ keys, Distinct fields keys ∧ field.name ∉ keys ∧
    EnclosedUntil .object (keys.map (Member fields a)) (fun x => ∃ u, Key field.name x u ∧ q u) s) ∨
  ∃ held rest, fields = held ++ field :: rest ∧
    EnclosedUntil .list (held.map (·.spelled a)) q s

end

/-- What a draft holds of a field once the fields of the given names have been read. -/
def heldIf {β : Type} (names : List String) (name : String) (value : β) : Option β :=
  if name ∈ names then some value else none

section

variable {β : Type} (names : List String) (name key : String) (value : β)

@[simp] theorem heldIf_cons :
    heldIf (key :: names) name value =
      if name = key then some value else heldIf names name value := by
  by_cases h : name = key <;> simp [heldIf, h]

@[simp] theorem isSome_heldIf : (heldIf names name value).isSome = decide (name ∈ names) := by
  by_cases h : name ∈ names <;> simp [heldIf, h]

theorem getD_heldIf {names : List String} {name : String} {value other : β}
    (h : name ∉ names → value = other) : (heldIf names name value).getD other = value := by
  by_cases hin : name ∈ names
  · simp [heldIf, hin]
  · simp [heldIf, hin, h hin]

end

variable {δ α : Type}

/-- A field of a shape is spelled as given. `draft` says what is held once the fields of the given
names have been read. -/
structure Slot (draft : List String → δ) (a : α) (field : Field δ) (g : FieldSpelling α) :
    Prop where
  name : field.name = g.name
  held : ∀ names, field.held (draft names) = decide (g.name ∈ names)
  needed : g.optional a → field.needed = false
  reads : ∃ hold, Reads field.reader hold (g.spelled a) ∧
    ∀ names, hold (draft names) = draft (g.name :: names)

/-- A shape reads the given fields of a record. -/
structure Shape.Follows (shape : Shape δ α) (fields : List (FieldSpelling α)) (a : α)
    (draft : List String → δ) : Prop where
  blank : shape.blank = draft []
  slots : List.Forall₂ (Slot draft a) shape.fields fields
  other : ∀ key names, (∀ field ∈ fields, field.name ≠ key) → draft (key :: names) = draft names
  build : ∀ names, (∀ field ∈ fields, field.name ∉ names → field.optional a) →
    shape.build (draft names) = .ok a

section

variable {draft : List String → δ} {a : α} {fs : List (Field δ)} {gs : List (FieldSpelling α)}
  {s t u x : List Char}

/-- A key finds a field of the shape exactly if it finds its spelling. -/
theorem find_slot (h : List.Forall₂ (Slot draft a) fs gs) (key : String) :
    (fs.find? (·.name = key) = none ∧ gs.find? (·.name = key) = none) ∨
      ∃ field g, fs.find? (·.name = key) = some field ∧ gs.find? (·.name = key) = some g ∧
        Slot draft a field g := by
  induction h with
  | nil => exact .inl ⟨rfl, rfl⟩
  | @cons field g fs gs h _ ih =>
    have hname := h.name
    by_cases hkey : g.name = key
    · refine .inr ⟨field, g, ?_, ?_, h⟩
      · exact List.find?_cons_of_pos (by simpa [hname] using hkey)
      · exact List.find?_cons_of_pos (by simpa using hkey)
    · rw [List.find?_cons_of_neg (by simpa [hname] using hkey),
        List.find?_cons_of_neg (by simpa using hkey)]
      exact ih

theorem mem_of_find {gs : List (FieldSpelling α)} {g : FieldSpelling α} {key : String}
    (h : gs.find? (·.name = key) = some g) : g ∈ gs ∧ g.name = key :=
  ⟨List.mem_of_find?_eq_some h, by simpa using List.find?_some h⟩

/-! ### Objects -/

theorem readMembers_key {first : Bool} {held : δ} {key : String} (hs : Separator first s x)
    (hk : Text key x u) :
    readMembers fs first held s = match readMember fs held key u with
      | .error e => .error e
      | .ok (held, r) => readMembers fs false held r := by
  obtain ⟨r, rfl, hr⟩ := hk
  have hnext := nextKey_key hs
  have hread := readString_quoted hr
  rw [readMembers.eq_def]
  split
  · rename_i h; rw [hnext] at h; cases h
  · rename_i h; rw [hnext] at h; cases h
  · rename_i h
    rw [hnext] at h
    cases h
    split
    · rename_i h; rw [hread] at h; cases h
    · rename_i h; rw [hread] at h; cases h; split <;> rename_i h <;> rw [h]

variable {shape : Shape δ α} {fields : List (FieldSpelling α)}

/-- One member is one step of the reader of an object. -/
theorem readMembers_member (hf : shape.Follows fields a draft) {first : Bool} {key : String}
    {names : List String} (hs : Separator first s x) (hm : Member fields a key x t) (ht : Stops t)
    (hnew : ∀ field ∈ fields, field.name = key → key ∉ names) :
    readMembers shape.fields first (draft names) s =
      readMembers shape.fields false (draft (key :: names)) t := by
  obtain ⟨u, ⟨v, w, hk, hv, hw⟩, hu⟩ := hm
  rw [readMembers_key hs hk]
  have hmember : readMember shape.fields (draft names) key v = .ok (draft (key :: names), t) := by
    unfold readMember
    rw [readColon_eq hv]
    obtain ⟨hnone, hnone'⟩ | ⟨field, g, hsome, hsome', hslot⟩ := find_slot hf.slots key
    · rw [hnone'] at hu
      rw [hnone]
      have hother : ∀ field ∈ fields, field.name ≠ key := by
        simpa [List.find?_eq_none] using hnone'
      simp only [WellFormed.skipValue_eq hu hw ht, hf.other key names hother]
      rfl
    · rw [hsome'] at hu
      rw [hsome]
      obtain ⟨hmem, hname⟩ := mem_of_find hsome'
      obtain ⟨hold, hread, hhold⟩ := hslot.reads
      have hheld : field.held (draft names) = false := by
        rw [hslot.held, hname]
        exact decide_eq_false (hnew g hmem hname)
      simp only [hheld, hread.read hw hu ht, hhold, hname]
      rfl
  rw [hmember]

theorem Distinct.fresh {keys names : List String} {key : String}
    (h : Distinct fields (key :: keys ++ names)) :
    (∀ field ∈ fields, field.name = key → key ∉ names) ∧
      Distinct fields (keys ++ key :: names) := by
  constructor
  · rintro field hmem rfl hin
    have hle := h field hmem
    have hpos := List.count_pos_iff.2 hin
    rw [List.cons_append, List.count_cons_self, List.count_append] at hle
    omega
  · intro field hmem
    have hle := h field hmem
    rw [List.cons_append, List.count_cons, List.count_append] at hle
    rw [List.count_append, List.count_cons]
    omega

theorem readMembers_items (hf : shape.Follows fields a draft) {keys names : List String}
    {first : Bool} (h : Items .object first (keys.map (Member fields a)) s t)
    (hd : Distinct fields (keys ++ names)) :
    readMembers shape.fields first (draft names) s =
      .ok (draft (keys.reverse ++ names), '\x7d' :: t) := by
  induction keys generalizing first names s with
  | nil =>
    cases h with
    | close h =>
      have hnext := nextKey_end first h
      rw [readMembers.eq_def]
      split
      · rename_i h; rw [hnext] at h; cases h
      · rename_i h; rw [hnext] at h; cases h; rfl
      · rename_i h; rw [hnext] at h; cases h
  | cons key keys ih =>
    cases h with
    | item hs ha hb =>
      obtain ⟨hnew, hd⟩ := hd.fresh
      rw [readMembers_member hf hs ha hb.stops hnew, ih hb hd, List.reverse_cons, List.append_assoc]
      rfl

/-- The reader of an object reaches the place where the text has a property. -/
theorem readMembers_until (hf : shape.Follows fields a draft) {q : List Char → Prop}
    {keys names : List String} {first : Bool}
    (h : ItemsUntil q first (keys.map (Member fields a)) s) (hd : Distinct fields (keys ++ names)) :
    ∃ first' s' x, Separator first' s' x ∧ q x ∧
      readMembers shape.fields first (draft names) s =
        readMembers shape.fields first' (draft (keys.reverse ++ names)) s' := by
  -- Along the keys the draft is the one that holds all keys read so far.
  induction keys generalizing first names s with
  | nil =>
    cases h with
    | here hs ha => exact ⟨first, s, _, hs, ha, rfl⟩
  | cons key keys ih =>
    cases h with
    | item hs ha hb =>
      obtain ⟨hnew, hd⟩ := hd.fresh
      obtain ⟨first', s', x, hs', hx, hread⟩ := ih hb hd
      refine ⟨first', s', x, hs', hx, ?_⟩
      rw [readMembers_member hf hs ha hb.stops hnew, hread, List.reverse_cons, List.append_assoc]
      rfl

theorem read_object (shape : Shape δ α) (h : Blanks s ('\x7b' :: t)) :
    shape.read s =
      leave .object (shape.complete (readMembers shape.fields true shape.blank t)) := by
  unfold Shape.read
  rw [h.token (by decide)]
  rfl

theorem read_list (shape : Shape δ α) (h : Blanks s ('[' :: t)) :
    shape.read s =
      leave .list
        (shape.complete (readSlots shape.arrayName true 0 shape.blank shape.fields t)) := by
  unfold Shape.read
  rw [h.token (by decide)]
  rfl

/-- An object is read as what the fields with its keys make. -/
theorem read_members (hf : shape.Follows fields a draft) {keys : List String}
    (hd : Distinct fields keys) {b : α} (hb : shape.build (draft keys.reverse) = .ok b)
    (hs : Blanks s x) (h : Enclosed .object (keys.map (Member fields a)) x t) :
    shape.read s = .ok (b, t) := by
  obtain ⟨r, rfl, hr⟩ := h
  rw [← List.append_nil keys] at hd
  have hmembers := readMembers_items hf hr hd
  rw [List.append_nil] at hmembers
  rw [read_object shape hs, hf.blank, hmembers]
  simp only [Shape.complete, hb]
  exact leave_closer b (.none (Frame.closer .object :: t))

theorem read_objectForm (hf : shape.Follows fields a draft) (hs : Blanks s x)
    (h : ObjectForm fields a x t) : shape.read s = .ok (a, t) := by
  obtain ⟨keys, hd, hleft, h⟩ := h
  refine read_members hf hd (hf.build _ ?_) hs h
  intro field hmem hnot
  exact hleft field hmem (by simpa using hnot)

/-! ### Arrays -/

/-- One slot is one step of the reader of an array. -/
theorem readSlots_slot (wanted : String) {field : Field δ} {g : FieldSpelling α}
    (hslot : Slot draft a field g) {first : Bool} {index : Nat} {names : List String}
    (hs : Separator first s x) (hx : g.spelled a x t) (ht : Stops t) :
    readSlots wanted first index (draft names) (field :: fs) s =
      readSlots wanted false (index + 1) (draft (g.name :: names)) fs t := by
  obtain ⟨hold, hread, hhold⟩ := hslot.reads
  rw [readSlots, nextItem_item hs (hread.opens hx)]
  simp only [hread.read (.none x) hx ht, hhold]

theorem readSlots_omitted (wanted : String) (h : List.Forall₂ (Slot draft a) fs gs)
    (hg : ∀ g ∈ gs, g.optional a) (hs : Blanks s (']' :: t)) (first : Bool) (index : Nat)
    (names : List String) :
    ∃ x, readSlots wanted first index (draft names) fs s = .ok (draft names, x) ∧
      Blanks x (']' :: t) := by
  induction h generalizing index s with
  | nil => exact ⟨s, rfl, hs⟩
  | cons hslot _ ih =>
    obtain ⟨ho, hg⟩ := List.forall_mem_cons.1 hg
    obtain ⟨x, hx, hblank⟩ := ih hg (.none (']' :: t)) (index + 1)
    refine ⟨x, ?_, hblank⟩
    rw [readSlots, nextItem_end first hs]
    simp only [hslot.needed ho, Bool.false_eq_true, if_false]
    exact hx

theorem readSlots_items (wanted : String) {held omitted : List (FieldSpelling α)}
    (h : List.Forall₂ (Slot draft a) fs (held ++ omitted)) (hg : ∀ g ∈ omitted, g.optional a)
    {first : Bool} (hs : Items .list first (held.map (·.spelled a)) s t) (index : Nat)
    (names : List String) :
    ∃ x, readSlots wanted first index (draft names) fs s =
        .ok (draft ((held.map (·.name)).reverse ++ names), x) ∧ Blanks x (']' :: t) := by
  induction held generalizing fs first index names s with
  | nil =>
    cases hs with
    | close hs => exact readSlots_omitted wanted h hg hs first index names
  | cons g held ih =>
    cases h with
    | cons hslot h =>
      cases hs with
      | item hs hx hb =>
        obtain ⟨x, hx', hblank⟩ := ih h hb (index + 1) (g.name :: names)
        refine ⟨x, ?_, hblank⟩
        rw [readSlots_slot wanted hslot hs hx hb.stops, hx', List.map_cons, List.reverse_cons,
          List.append_assoc]
        rfl

theorem read_arrayForm (hf : shape.Follows fields a draft) (hs : Blanks s x)
    (h : ArrayForm fields a x t) : shape.read s = .ok (a, t) := by
  obtain ⟨held, omitted, hfields, ho, r, rfl, hr⟩ := h
  have hslots := hf.slots
  rw [hfields] at hslots
  obtain ⟨x, hx, hblank⟩ := readSlots_items shape.arrayName hslots ho hr 0 []
  have hbuild : shape.build (draft ((held.map (·.name)).reverse ++ [])) = .ok a := by
    apply hf.build
    intro field hmem hnot
    rw [hfields] at hmem
    rcases List.mem_append.1 hmem with hmem | hmem
    · exact absurd (by simpa using ⟨field, hmem, rfl⟩) hnot
    · exact ho field hmem
  rw [read_list shape hs, hf.blank, hx]
  simp only [Shape.complete, hbuild]
  exact leave_closer a hblank

/-- Every spelling of a record is read as the record. -/
theorem reader_reads (hf : shape.Follows fields a draft) :
    Reads shape.reader a (RecordForm fields a) where
  opens := by
    rintro s t (⟨keys, -, -, h⟩ | ⟨held, omitted, -, -, h⟩)
    · exact h.opens
    · exact h.opens
  read := by
    rintro s' s t hs (h | h) -
    · exact read_objectForm hf hs h
    · exact read_arrayForm hf hs h

/-! ### Where reading fails -/

variable {why : Cause → Prop} {q : List Char → Prop}

/-- Trouble with the fields of a record is trouble with the record. -/
theorem leave_complete_error (shape : Shape δ α) (frame : Frame) (e : Trouble) :
    ∃ e', leave frame (shape.complete (.error e)) = .error e' ∧ e'.cause = e.cause :=
  leave_error frame e

/-- A record that repeats the key of a field is refused for it, whatever follows the key. -/
theorem repeatedKey_fails (hf : shape.Follows fields a draft) (name : String) :
    Fails shape.reader (· = .duplicateField name) (RepeatedKey fields a name) where
  opens := by
    rintro s ⟨keys, -, -, -, h⟩
    exact h.opens
  read := by
    rintro s' s hs ⟨keys, hd, hin, ⟨g, hg, hname⟩, r, rfl, hr⟩
    rw [← List.append_nil keys] at hd
    obtain ⟨first, v, x, hv, ⟨u, hu⟩, hread⟩ := readMembers_until hf hr hd
    -- The key is looked at before its colon, so nothing behind it matters.
    have hmember : readMember shape.fields (draft (keys.reverse ++ [])) name u =
        .error (.pending (.duplicateField name) u) := by
      unfold readMember
      obtain ⟨-, hnone⟩ | ⟨field, g', hsome, hsome', hslot⟩ := find_slot hf.slots name
      · exact absurd (by simpa using hname) (List.find?_eq_none.1 hnone g hg)
      · obtain ⟨-, hname'⟩ := mem_of_find hsome'
        have hheld : field.held (draft (keys.reverse ++ [])) = true := by
          rw [hslot.held, hname']
          simpa using hin
        rw [hsome]
        simp only [hheld, if_true, hslot.name, hname']
    have herror : readMembers shape.fields true (draft []) r =
        .error (.pending (.duplicateField name) u) := by
      rw [hread, readMembers_key hv hu, hmember]
    show ∃ e, shape.read s' = .error e ∧ _
    rw [read_object shape hs, hf.blank, herror]
    exact leave_complete_error shape .object _

theorem readSlots_until (wanted : String) {field : FieldSpelling α}
    {held rest : List (FieldSpelling α)}
    (h : List.Forall₂ (Slot draft a) fs (held ++ field :: rest))
    (hq : ∀ f ∈ fs, f.name = field.name → Fails f.reader why q) {first : Bool}
    (hs : ItemsUntil q first (held.map (·.spelled a)) s) (index : Nat) (names : List String) :
    ∃ e, readSlots wanted first index (draft names) fs s = .error e ∧ why e.cause := by
  induction held generalizing fs first index names s with
  | nil =>
    cases h with
    | cons hslot h =>
      obtain ⟨hq, -⟩ := List.forall_mem_cons.1 hq
      cases hs with
      | here hs hx =>
        obtain ⟨e, he, hwhy⟩ := (hq hslot.name).read (.none _) hx
        refine ⟨e, ?_, hwhy⟩
        rw [readSlots, nextItem_item hs ((hq hslot.name).opens hx)]
        simp only [he]
  | cons g held ih =>
    cases h with
    | cons hslot h =>
      obtain ⟨-, hq⟩ := List.forall_mem_cons.1 hq
      cases hs with
      | item hs hx hb =>
        rw [readSlots_slot wanted hslot hs hx hb.stops]
        exact ih h hq hb (index + 1) (g.name :: names)

/-- A record fails at a field that fails. -/
theorem recordUntil_fails (hf : shape.Follows fields a draft) {g : FieldSpelling α}
    (hg : g ∈ fields) (hq : ∀ f ∈ shape.fields, f.name = g.name → Fails f.reader why q) :
    Fails shape.reader why (RecordUntil fields a g q) where
  opens := by
    rintro s (⟨keys, -, -, h⟩ | ⟨held, rest, -, h⟩)
    · exact h.opens
    · exact h.opens
  read := by
    rintro s' s hs (⟨keys, hd, hnew, r, rfl, hr⟩ | ⟨held, rest, hfields, r, rfl, hr⟩)
    · rw [← List.append_nil keys] at hd
      obtain ⟨first, v, x, hv, ⟨u, ⟨w, y, hw, hy, hyu⟩, hu⟩, hread⟩ := readMembers_until hf hr hd
      obtain ⟨-, hnone⟩ | ⟨field, g', hsome, hsome', hslot⟩ := find_slot hf.slots g.name
      · exact absurd (by simp) (List.find?_eq_none.1 hnone g hg)
      · obtain ⟨-, hname⟩ := mem_of_find hsome'
        have hfield := hq field (List.mem_of_find?_eq_some hsome) (hslot.name.trans hname)
        obtain ⟨e, he, hwhy⟩ := hfield.read hyu hu
        have hheld : field.held (draft (keys.reverse ++ [])) = false := by
          rw [hslot.held, hname]
          simpa using hnew
        have hmember :
            readMember shape.fields (draft (keys.reverse ++ [])) g.name w = .error e := by
          unfold readMember
          rw [hsome]
          simp only [hheld, Bool.false_eq_true, if_false, readColon_eq hy, he]
        show ∃ e, shape.read s' = .error e ∧ _
        rw [read_object shape hs, hf.blank, hread, readMembers_key hv hw, hmember]
        obtain ⟨e', he', hcause⟩ := leave_complete_error shape .object e
        exact ⟨e', he', hcause ▸ hwhy⟩
    · have hslots := hf.slots
      rw [hfields] at hslots
      obtain ⟨e, he, hwhy⟩ := readSlots_until shape.arrayName hslots hq hr 0 []
      show ∃ e, shape.read s' = .error e ∧ _
      rw [read_list shape hs, hf.blank, he]
      obtain ⟨e', he', hcause⟩ := leave_complete_error shape .list e
      exact ⟨e', he', hcause ▸ hwhy⟩

end

end DecoderExport.Json
