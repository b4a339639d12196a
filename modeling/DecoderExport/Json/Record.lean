import DecoderExport.Json.Sequence

/-!
# Readers of records

A record is written as an object, with its fields in any order and with other members between them,
or as an array of its fields in the order of declaration. A `Shape` says which fields there are and
how a value is built from the fields that were read; both ways of writing are read by
`Shape.reader`.
-/

namespace DecoderExport.Json

/-- One field of a record that is being read; `δ` holds the fields read so far. -/
structure Field (δ : Type) where
  /-- The key of the field in an object. -/
  name : String
  /-- Whether the field has been read. -/
  held : δ → Bool
  /-- Reads the field and says how to hold it. -/
  reader : Reader (δ → δ)
  /-- Whether the record cannot do without the field. -/
  needed : Bool

/-- What a record consists of. -/
structure Shape (δ α : Type) where
  /-- How messages name the record. -/
  name : String
  /-- The fields in the order of declaration. -/
  fields : List (Field δ)
  /-- No field has been read. -/
  blank : δ
  /-- The record, or the name of the first field that is missing. -/
  build : δ → Except String α

/-- A reader that carries a function over what it read. -/
def Reader.map {α β : Type} (f : α → β) (r : Reader α) : Reader β where
  read s := match r.read s with
    | .ok (a, rest) => .ok (f a, rest)
    | .error t => .error t
  shrinks := by
    intro s a rest h
    simp only at h
    split at h
    · rename_i h'; cases h; exact r.shrinks h'
    · simp at h

/-- Whether an object has another key, with the text after the quote that opens it or at the
closer. -/
def nextKey (first : Bool) (s : List Char) : Outcome Bool :=
  match skipBlanks s with
  | [] => .error (.next .endOfObject [])
  | '\x7d' :: r => .ok (false, '\x7d' :: r)
  | c :: r =>
    if first then if c = '"' then .ok (true, r) else .error (.next .keyNotString (c :: r))
    else if c = ',' then
      match skipBlanks r with
      | [] => .error (.next .endOfValue [])
      | '"' :: r => .ok (true, r)
      | '\x7d' :: r => .error (.next .trailingComma ('\x7d' :: r))
      | r => .error (.next .keyNotString r)
    else .error (.next .objectCommaOrEndWanted (c :: r))

/-- Reads the value behind a key: a field that is not held yet is read, and the value of any other
key is skipped. -/
def readMember {δ : Type} (fields : List (Field δ)) (held : δ) (key : String) (s : List Char) :
    Outcome δ :=
  match fields.find? (·.name = key) with
  | some field =>
    if field.held held then .error (.pending (.duplicateField field.name) s)
    else
      match readColon s with
      | .error t => .error t
      | .ok r =>
        match field.reader.read r with
        | .error t => .error t
        | .ok (hold, r) => .ok (hold held, r)
  | none =>
    match readColon s with
    | .error t => .error t
    | .ok r => (skipValue [] r).map (held, ·)

theorem nextKey_length {first b : Bool} {s r : List Char} (h : nextKey first s = .ok (b, r)) :
    r.length ≤ s.length := by
  have hs := length_skipBlanks_le s
  unfold nextKey at h
  split at h
  · simp at h
  · rename_i hr; cases h; rw [hr] at hs; exact hs
  · rename_i c t _ hr
    rw [hr] at hs
    simp only [List.length_cons] at hs
    have ht := length_skipBlanks_le t
    split at h
    · split at h
      · cases h; omega
      · simp at h
    · split at h
      · split at h
        · simp at h
        · rename_i hk; cases h; rw [hk] at ht; simp only [List.length_cons] at ht; omega
        · simp at h
        · simp at h
      · simp at h

theorem readMember_length {δ : Type} {fields : List (Field δ)} {held held' : δ} {key : String}
    {s r : List Char} (h : readMember fields held key s = .ok (held', r)) :
    r.length < s.length := by
  unfold readMember at h
  split at h
  · split at h
    · simp at h
    · split at h
      · simp at h
      · rename_i hc
        have := readColon_length hc
        split at h
        · simp at h
        · rename_i hf
          have := Reader.shrinks _ hf
          cases h
          omega
  · split at h
    · simp at h
    · rename_i hc
      have := readColon_length hc
      obtain ⟨t, ht, ⟨⟩⟩ := ok_of_map_ok h
      have := skipValue_length ht
      omega

/-- The fields of an object from the next key on. -/
def readMembers {δ : Type} (fields : List (Field δ)) (first : Bool) (held : δ) (s : List Char) :
    Outcome δ :=
  match _h : nextKey first s with
  | .error t => .error t
  | .ok (false, r) => .ok (held, r)
  | .ok (true, r) =>
    match _h' : readString r with
    | .error t => .error t
    | .ok (key, r) =>
      match _h'' : readMember fields held key r with
      | .error t => .error t
      | .ok (held, r) => readMembers fields false held r
termination_by s.length
decreasing_by
  have := nextKey_length _h
  have := readString_length _h'
  have := readMember_length _h''
  omega

/-- The fields of an array from the given ones on; `index` of them came before. The fields at the
end that the record can do without may be absent. -/
def readSlots {δ : Type} (wanted : String) (first : Bool) (index : Nat) (held : δ) :
    List (Field δ) → List Char → Outcome δ
  | [], s => .ok (held, s)
  | field :: fields, s =>
    match nextItem first s with
    | .error t => .error t
    | .ok (false, r) =>
      if field.needed then .error (.pending (.wrongLength index wanted) r)
      else readSlots wanted first (index + 1) held fields r
    | .ok (true, r) =>
      match field.reader.read r with
      | .error t => .error t
      | .ok (hold, r) => readSlots wanted false (index + 1) (hold held) fields r

/-- The record that the fields make, or the trouble that one is missing. -/
def Shape.complete {δ α : Type} (shape : Shape δ α) : Outcome δ → Outcome α
  | .error t => .error t
  | .ok (held, r) =>
    match shape.build held with
    | .ok a => .ok (a, r)
    | .error name => .error (.pending (.missingField name) r)

/-- How messages name an array form of a record. -/
def Shape.arrayName {δ α : Type} (shape : Shape δ α) : String :=
  s!"{shape.name} with {shape.fields.length} elements"

/-- A record. -/
def Shape.read {δ α : Type} (shape : Shape δ α) (s : List Char) : Outcome α :=
  match skipBlanks s with
  | [] => .error (.next .endOfValue [])
  | '[' :: r =>
    leave .list (shape.complete (readSlots shape.arrayName true 0 shape.blank shape.fields r))
  | '\x7b' :: r =>
    leave .object (shape.complete (readMembers shape.fields true shape.blank r))
  | r => .error (mismatch shape.name r)

theorem readMembers_length {δ : Type} {fields : List (Field δ)} {first : Bool} {held held' : δ}
    {s r : List Char} (h : readMembers fields first held s = .ok (held', r)) :
    r.length ≤ s.length := by
  fun_induction readMembers fields first held s with
  | case1 => simp at h
  | case2 _ _ _ _ h' => cases h; exact nextKey_length h'
  | case3 => simp at h
  | case4 => simp at h
  | case5 _ _ _ _ h1 _ _ h2 _ _ h3 ih =>
    have := nextKey_length h1
    have := readString_length h2
    have := readMember_length h3
    have := ih h
    omega

theorem readSlots_length {δ : Type} {wanted : String} {fields : List (Field δ)} {first : Bool}
    {index : Nat} {held held' : δ} {s r : List Char}
    (h : readSlots wanted first index held fields s = .ok (held', r)) : r.length ≤ s.length := by
  induction fields generalizing first index held s with
  | nil => cases h; exact Nat.le_refl _
  | cons field fields ih =>
    simp only [readSlots] at h
    split at h
    · simp at h
    · rename_i h'
      have := nextItem_length h'
      split at h
      · simp at h
      · have := ih h; omega
    · rename_i h'
      have := nextItem_length h'
      split at h
      · simp at h
      · rename_i h''
        have := field.reader.shrinks h''
        have := ih h
        omega

theorem complete_length {δ α : Type} {shape : Shape δ α} {o : Outcome δ} {a : α} {r : List Char}
    (h : shape.complete o = .ok (a, r)) : ∃ held, o = .ok (held, r) := by
  unfold Shape.complete at h
  split at h
  · simp at h
  · rename_i held r'
    split at h
    · cases h; exact ⟨held, rfl⟩
    · simp at h

theorem Shape.read_shrinks {δ α : Type} (shape : Shape δ α) : Shrinks shape.read := by
  intro s a r h
  have hs := length_skipBlanks_le s
  unfold Shape.read at h
  split at h
  · simp at h
  · rename_i hr
    rw [hr] at hs
    obtain ⟨t, ht, hlt⟩ := leave_length h
    obtain ⟨held, hk⟩ := complete_length ht
    have := readSlots_length hk
    simp only [List.length_cons] at hs
    omega
  · rename_i hr
    rw [hr] at hs
    obtain ⟨t, ht, hlt⟩ := leave_length h
    obtain ⟨held, hk⟩ := complete_length ht
    have := readMembers_length hk
    simp only [List.length_cons] at hs
    omega
  · simp at h

/-- Reads a record. -/
def Shape.reader {δ α : Type} (shape : Shape δ α) : Reader α := ⟨shape.read, shape.read_shrinks⟩

end DecoderExport.Json
