import DecoderExport.Proofs.RecordSpelling

/-!
# Records with one field spelled in another way

`respelled` gives one field of a record another spelling. Where the new spelling is one of the
field, the text spells the record; where it is none, the text spells the record up to that field,
and reading fails there, wherever the field stands.
-/

namespace DecoderExport.Json

/-- Items up to one of them, from which on the text has a property. -/
theorem Items.until {frame : Frame} {p : Spelling} {q : List Char → Prop} {ps rest : List Spelling}
    {first : Bool} {s t : List Char} (h : Items frame first (ps ++ p :: rest) s t)
    (hq : ∀ x y, p x y → Stops y → q x) : ItemsUntil q first ps s := by
  induction ps generalizing first s with
  | nil =>
    cases h with
    | item hs ha hb => exact .here hs (hq _ _ ha hb.stops)
  | cons p' ps ih =>
    cases h with
    | item hs ha hb => exact .item hs ha (ih hb)

section

variable {α β : Type}

/-- A field, or the given one in place of the field of this name. -/
def FieldSpelling.respelled (new field : FieldSpelling α) : FieldSpelling α :=
  if field.name = new.name then new else field

/-- The fields with the given one in place of the field of this name. -/
def respelled (fields : List (FieldSpelling α)) (new : FieldSpelling α) : List (FieldSpelling α) :=
  fields.map new.respelled

variable {fields : List (FieldSpelling α)} {new field : FieldSpelling α} {a : α} {key : String}
  {s t : List Char}

theorem FieldSpelling.name_respelled (new field : FieldSpelling α) :
    (new.respelled field).name = field.name := by
  unfold respelled
  split
  · rename_i h
    exact h.symm
  · rfl

theorem FieldSpelling.respelled_of_ne (h : field.name ≠ new.name) :
    new.respelled field = field := if_neg h

theorem find_respelled (fields : List (FieldSpelling α)) (new : FieldSpelling α) (key : String) :
    (respelled fields new).find? (·.name = key) =
      (fields.find? (·.name = key)).map new.respelled := by
  simp only [respelled, List.find?_map, Function.comp_def, FieldSpelling.name_respelled]

theorem distinct_respelled {keys : List String} (h : Distinct (respelled fields new) keys) :
    Distinct fields keys := by
  intro field hmem
  have hle := h _ (List.mem_map_of_mem hmem)
  rwa [FieldSpelling.name_respelled] at hle

/-- A member is spelled as before where its field is. -/
theorem member_respelled {b : α}
    (h : ∀ field ∈ fields, field.name = key → (new.respelled field).spelled a = field.spelled b) :
    Member (respelled fields new) a key = Member fields b key := by
  funext s t
  simp only [Member, find_respelled]
  cases hfind : fields.find? (·.name = key) with
  | none => rfl
  | some field =>
    obtain ⟨hmem, hname⟩ := mem_of_find hfind
    simp only [Option.map_some, h field hmem hname]

/-- A field that is spelled in another of its ways leaves the record what it is. -/
theorem recordForm_of_respelled {b : α}
    (h : ∀ field ∈ fields, (new.respelled field).spelled a = field.spelled b ∧
      ((new.respelled field).optional a → field.optional b))
    (hform : RecordForm (respelled fields new) a s t) : RecordForm fields b s t := by
  obtain ⟨keys, hd, hleft, hitems⟩ | ⟨held, omitted, hfields, hleft, hitems⟩ := hform
  · refine .inl ⟨keys, distinct_respelled hd, ?_, ?_⟩
    · intro field hmem hnot
      apply (h field hmem).2
      exact hleft _ (List.mem_map_of_mem hmem) (by rwa [FieldSpelling.name_respelled])
    · have hmembers : Member (respelled fields new) a = Member fields b :=
        funext fun key => member_respelled fun field hmem _ => (h field hmem).1
      rwa [hmembers] at hitems
  · obtain ⟨held, omitted, rfl, rfl, rfl⟩ := List.map_eq_append_iff.1 hfields
    obtain ⟨hheld, homitted⟩ := List.forall_mem_append.1 h
    refine .inr ⟨held, omitted, rfl, ?_, ?_⟩
    · intro field hmem
      exact (homitted field hmem).2 (hleft _ (List.mem_map_of_mem hmem))
    · have hspelled : (held.map new.respelled).map (·.spelled a) = held.map (·.spelled b) := by
        rw [List.map_map]
        exact List.map_congr_left fun field hmem => (hheld field hmem).1
      rwa [hspelled] at hitems

/-- A record up to the field that is spelled in another way. -/
theorem recordUntil_of_respelled {q : List Char → Prop} (hmem : field ∈ fields)
    (hname : new.name = field.name) (hunique : ∀ f ∈ fields, f.name = new.name → f = field)
    (hneeded : ¬ new.optional a) (hq : ∀ x y, new.spelled a x y → Stops y → q x)
    (hform : RecordForm (respelled fields new) a s t) : RecordUntil fields a field q s := by
  have hnew : new.respelled field = new := if_pos hname.symm
  obtain ⟨keys, hd, hleft, r, rfl, hr⟩ | ⟨held, omitted, hfields, hleft, r, rfl, hr⟩ := hform
  · have hkey : new.name ∈ keys := by
      by_contra hnot
      exact hneeded (hnew ▸ hleft _ (List.mem_map_of_mem hmem) (by rwa [hnew]))
    -- The field stands behind the members before its key, which are spelled as in the record.
    obtain ⟨before, after, rfl, hbefore⟩ := List.eq_append_cons_of_mem hkey
    have hmembers : before.map (Member (respelled fields new) a) =
        before.map (Member fields a) := by
      apply List.map_congr_left
      rintro key hin
      apply member_respelled
      rintro f - rfl
      rw [FieldSpelling.respelled_of_ne]
      rintro hf
      exact hbefore (hf ▸ hin)
    have hfind : (respelled fields new).find? (·.name = new.name) = some new := by
      rw [find_respelled]
      cases hfind : fields.find? (·.name = new.name) with
      | none => exact absurd (by simp [hname]) (List.find?_eq_none.1 hfind field hmem)
      | some f =>
        obtain ⟨-, hf⟩ := mem_of_find hfind
        rw [Option.map_some, FieldSpelling.respelled, if_pos hf]
    refine .inl ⟨before, ?_, hname ▸ hbefore, r, rfl, ?_⟩
    · intro f hf
      have hle := distinct_respelled hd f hf
      rw [List.count_append] at hle
      omega
    · rw [List.map_append, List.map_cons, hmembers] at hr
      apply hr.until
      rintro x y ⟨u, hu, hspelled⟩ hy
      rw [hfind] at hspelled
      exact ⟨u, hname ▸ hu, hq u y hspelled hy⟩
  · obtain ⟨held, omitted, rfl, rfl, rfl⟩ := List.map_eq_append_iff.1 hfields
    have hheld : field ∈ held := by
      refine (List.mem_append.1 hmem).resolve_right fun homitted => hneeded ?_
      exact hnew ▸ hleft _ (List.mem_map_of_mem homitted)
    obtain ⟨before, after, rfl, hbefore⟩ := List.eq_append_cons_of_mem hheld
    have hspelled : (before.map new.respelled).map (·.spelled a) = before.map (·.spelled a) := by
      rw [List.map_map]
      apply List.map_congr_left
      intro f hf
      have hne : f.name ≠ new.name := fun hf' => hbefore (hunique f (by simp [hf]) hf' ▸ hf)
      simp only [Function.comp_apply, FieldSpelling.respelled_of_ne hne]
    refine .inr ⟨before, after ++ omitted, by simp, r, rfl, ?_⟩
    rw [List.map_append, List.map_append, List.map_cons, List.map_cons, hspelled, hnew] at hr
    exact hr.until hq

end

end DecoderExport.Json
