import DecoderExport.Proofs.WellFormed

/-!
# Readers and spellings

`Reads r a p` says that a reader reads every text of the spelling `p` as the value `a`, and `Fails`
that it gives up on every text that begins in a certain way. Both are carried from the items of a
list or a pair to the whole: by induction along the items, each of which is one step of the reader.
-/

namespace DecoderExport.Json

/-- Items of the given spellings from the next one on, through the closer of their frame. The flag
says whether the next item is the first. -/
inductive Items (frame : Frame) : Bool → List Spelling → Spelling
  | close {first : Bool} {s t : List Char} (h : Blanks s (frame.closer :: t)) :
      Items frame first [] s t
  | item {first : Bool} {p : Spelling} {ps : List Spelling} {s a b t : List Char}
      (hs : Separator first s a) (ha : p a b) (hb : Items frame false ps b t) :
      Items frame first (p :: ps) s t

/-- A list or an object with items of the given spellings. -/
def Enclosed (frame : Frame) (ps : List Spelling) : Spelling := fun s t =>
  ∃ r, s = frame.opener :: r ∧ Items frame true ps r t

/-- Items of the given spellings, and then the place of one more, from which on the text has a
property. The text need not be well-formed from there on. -/
inductive ItemsUntil (q : List Char → Prop) : Bool → List Spelling → List Char → Prop
  | here {first : Bool} {s a : List Char} (hs : Separator first s a) (ha : q a) :
      ItemsUntil q first [] s
  | item {first : Bool} {p : Spelling} {ps : List Spelling} {s a b : List Char}
      (hs : Separator first s a) (ha : p a b) (hb : ItemsUntil q false ps b) :
      ItemsUntil q first (p :: ps) s

/-- A list or an object up to an item, from which on the text has a property. -/
def EnclosedUntil (frame : Frame) (ps : List Spelling) (q : List Char → Prop) (s : List Char) :
    Prop :=
  ∃ r, s = frame.opener :: r ∧ ItemsUntil q true ps r

/-- A whole text of a spelling, with blanks around it. -/
def Document (p : Spelling) (text : String) : Prop :=
  ∃ s t, Blanks text.toList s ∧ p s t ∧ Blanks t []

/-- A whole text that has a property behind its first blanks. -/
def DocumentUntil (q : List Char → Prop) (text : String) : Prop := ∃ s, Blanks text.toList s ∧ q s

/-- A reader reads every text of a spelling as one value. -/
structure Reads {α : Type} (reader : Reader α) (a : α) (p : Spelling) : Prop where
  opens : ∀ ⦃s t⦄, p s t → Opens s
  read : ∀ ⦃s' s t⦄, Blanks s' s → p s t → Stops t → reader.read s' = .ok (a, t)

/-- A reader gives up, for one of some causes, on every text with a property. -/
structure Fails {α : Type} (reader : Reader α) (why : Cause → Prop) (q : List Char → Prop) :
    Prop where
  opens : ∀ ⦃s⦄, q s → Opens s
  read : ∀ ⦃s' s⦄, Blanks s' s → q s → ∃ e, reader.read s' = .error e ∧ why e.cause

section

variable {frame : Frame} {ps : List Spelling} {q : List Char → Prop} {s t : List Char}

theorem Items.stops (h : Items frame false ps s t) : Stops s := by
  cases h with
  | close h => exact h.stops (frame.closer_stops t)
  | item hs _ _ => exact hs.stops

theorem ItemsUntil.stops (h : ItemsUntil q false ps s) : Stops s := by
  cases h with
  | here hs _ => exact hs.stops
  | item hs _ _ => exact hs.stops

theorem opens_opener (frame : Frame) (r : List Char) : Opens (frame.opener :: r) := by
  cases frame <;> exact ⟨_, _, rfl, by decide, by decide⟩

theorem Enclosed.opens (h : Enclosed frame ps s t) : Opens s := by
  obtain ⟨r, rfl, -⟩ := h
  exact opens_opener frame r

theorem EnclosedUntil.opens (h : EnclosedUntil frame ps q s) : Opens s := by
  obtain ⟨r, rfl, -⟩ := h
  exact opens_opener frame r

end

section

variable {α β : Type} {reader : Reader α} {a : α} {p : Spelling} {why : Cause → Prop}
  {q : List Char → Prop}

theorem Reads.map (h : Reads reader a p) (f : α → β) : Reads (reader.map f) (f a) p where
  opens := h.opens
  read := by
    intro s' s t hs hp ht
    simp only [Reader.map, h.read hs hp ht]

theorem Fails.map (h : Fails reader why q) (f : α → β) : Fails (reader.map f) why q where
  opens := h.opens
  read := by
    intro s' s hs hq
    obtain ⟨e, he, hwhy⟩ := h.read hs hq
    exact ⟨e, by simp only [Reader.map, he], hwhy⟩

/-- A text that spells the value and nothing else is read as the value. -/
theorem Reads.whole {text : String} (h : Reads reader a p) (hd : Document p text) :
    reader.whole text = .ok a := by
  obtain ⟨s, t, hs, hp, ht⟩ := hd
  have hend : skipBlanks t = [] := ht.skip
  unfold Reader.whole
  rw [h.read hs hp (ht.stops stops_nil)]
  simp only [hend]

theorem settle_cause (e : Trouble) : e.settle.1 = e.cause := by
  cases e <;> rfl

/-- A whole text is refused for the cause for which reading it fails. -/
theorem Fails.whole {text : String} (h : Fails reader why q) (hd : DocumentUntil q text) :
    ∃ e, reader.whole text = .error e ∧ why e.cause := by
  obtain ⟨s, hs, hq⟩ := hd
  obtain ⟨e, he, hwhy⟩ := h.read hs hq
  refine ⟨.ofTrouble text.toList e, ?_, ?_⟩
  · unfold Reader.whole
    rw [he]
  · rw [← settle_cause] at hwhy
    exact hwhy

end

/-! ### Lists and pairs -/

section

variable {α : Type} {item : Reader α} {spell : α → Spelling} {why : Cause → Prop}
  {q : List Char → Prop} {s t u : List Char}

theorem readItems_end {first : Bool} {done : List α} (h : nextItem first s = .ok (false, t)) :
    readItems item first done s = .ok (done.reverse, t) := by
  rw [readItems.eq_def]
  split
  · rename_i h'; rw [h] at h'; cases h'
  · rename_i h'; rw [h] at h'; cases h'; rfl
  · rename_i h'; rw [h] at h'; cases h'

theorem readItems_next {first : Bool} {done : List α} (h : nextItem first s = .ok (true, t)) :
    (∀ {a u}, item.read t = .ok (a, u) →
      readItems item first done s = readItems item false (a :: done) u) ∧
    ∀ {e}, item.read t = .error e → readItems item first done s = .error e := by
  rw [readItems.eq_def item first]
  split
  · rename_i h'; rw [h] at h'; cases h'
  · rename_i h'; rw [h] at h'; cases h'
  · rename_i h'
    rw [h] at h'
    cases h'
    constructor
    · intro a u ha
      split
      · rename_i h'; rw [ha] at h'; cases h'
      · rename_i h'; rw [ha] at h'; cases h'; rfl
    · intro e he
      split
      · rename_i h'; rw [he] at h'; cases h'; rfl
      · rename_i h'; rw [he] at h'; cases h'

/-- One item is one step of the reader of a list. -/
theorem readItems_item {first : Bool} {done : List α} {a : α} (hi : Reads item a (spell a))
    (hs : Separator first s t) (ha : spell a t u) (hu : Stops u) :
    readItems item first done s = readItems item false (a :: done) u :=
  (readItems_next (nextItem_item hs (hi.opens ha))).1 (hi.read (.none t) ha hu)

theorem readItems_items (hi : ∀ a, Reads item a (spell a)) {as : List α} {first : Bool}
    (h : Items .list first (as.map spell) s t) (done : List α) :
    readItems item first done s = .ok (done.reverse ++ as, ']' :: t) := by
  induction as generalizing first done s with
  | nil =>
    cases h with
    | close h => rw [readItems_end (nextItem_end first h), List.append_nil]
  | cons a as ih =>
    cases h with
    | item hs ha hb =>
      rw [readItems_item (hi a) hs ha hb.stops, ih hb, List.reverse_cons, List.append_assoc]
      rfl

theorem readItems_until (hi : ∀ a, Reads item a (spell a)) (hq : Fails item why q) {as : List α}
    {first : Bool} (h : ItemsUntil q first (as.map spell) s) (done : List α) :
    ∃ e, readItems item first done s = .error e ∧ why e.cause := by
  induction as generalizing first done s with
  | nil =>
    cases h with
    | here hs ha =>
      obtain ⟨e, he, hwhy⟩ := hq.read (.none _) ha
      exact ⟨e, (readItems_next (nextItem_item hs (hq.opens ha))).2 he, hwhy⟩
  | cons a as ih =>
    cases h with
    | item hs ha hb =>
      rw [readItems_item (hi a) hs ha hb.stops]
      exact ih hb _

theorem readList_opener (item : Reader α) (h : Blanks s ('[' :: t)) :
    readList item s = leave .list (readItems item true [] t) := by
  unfold readList
  rw [h.token (by decide)]
  rfl

theorem listOf_reads (hi : ∀ a, Reads item a (spell a)) (as : List α) :
    Reads (listOf item) as (Enclosed .list (as.map spell)) where
  opens := fun _ _ h => h.opens
  read := by
    rintro s' s t hs ⟨r, rfl, hr⟩ -
    show readList item s' = _
    rw [readList_opener item hs, readItems_items hi hr]
    exact leave_closer as (.none (Frame.closer .list :: t))

/-- A list fails at an item that fails. -/
theorem listOf_fails (hi : ∀ a, Reads item a (spell a)) (hq : Fails item why q) (as : List α) :
    Fails (listOf item) why (EnclosedUntil .list (as.map spell) q) where
  opens := fun _ h => h.opens
  read := by
    rintro s' s hs ⟨r, rfl, hr⟩
    obtain ⟨e, he, hwhy⟩ := readItems_until hi hq hr []
    obtain ⟨e', he', hcause⟩ := leave_error (α := List α) .list e
    refine ⟨e', ?_, hcause ▸ hwhy⟩
    show readList item s' = _
    rw [readList_opener item hs, he, he']

theorem pairOf_reads (hi : ∀ a, Reads item a (spell a)) (a b : α) :
    Reads (pairOf item) (a, b) (Enclosed .list [spell a, spell b]) where
  opens := fun _ _ h => h.opens
  read := by
    rintro s' s t hs ⟨r, rfl, hr⟩ -
    have hopen : readPair item s' = leave .list (readBoth item r) := by
      unfold readPair
      rw [Blanks.token hs (by decide)]
      rfl
    show readPair item s' = _
    cases hr with
    | @item _ _ _ _ u v _ hsu hu hv =>
      cases hv with
      | @item _ _ _ _ w x _ hsw hw hx =>
        cases hx with
        | close hx =>
          have hstop : Stops x := hx.stops (Frame.closer_stops .list t)
          have hboth : readBoth item r = .ok ((a, b), x) := by
            simp only [readBoth, nextItem_item hsu ((hi a).opens hu),
              (hi a).read (.none u) hu hsw.stops, nextItem_item hsw ((hi b).opens hw),
              (hi b).read (.none w) hw hstop]
          rw [hopen, hboth]
          exact leave_closer (a, b) hx

/-- A pair fails at an item that fails. -/
theorem pairOf_fails (hi : ∀ a, Reads item a (spell a)) (hq : Fails item why q) {as : List α}
    (hlength : as.length < 2) :
    Fails (pairOf item) why (EnclosedUntil .list (as.map spell) q) where
  opens := fun _ h => h.opens
  read := by
    rintro s' s hs ⟨r, rfl, hr⟩
    obtain ⟨e, he, hwhy⟩ : ∃ e, readBoth item r = .error e ∧ why e.cause := by
      cases as with
      | nil =>
        cases hr with
        | here hsu hu =>
          obtain ⟨e, he, hwhy⟩ := hq.read (.none _) hu
          exact ⟨e, by simp only [readBoth, nextItem_item hsu (hq.opens hu), he], hwhy⟩
      | cons a as =>
        obtain rfl : as = [] := List.eq_nil_of_length_eq_zero (Nat.lt_one_iff.1
          (Nat.lt_of_succ_lt_succ hlength))
        cases hr with
        | item hsu hu hv =>
          cases hv with
          | here hsw hw =>
            obtain ⟨e, he, hwhy⟩ := hq.read (.none _) hw
            refine ⟨e, ?_, hwhy⟩
            simp only [readBoth, nextItem_item hsu ((hi a).opens hu),
              (hi a).read (.none _) hu hsw.stops, nextItem_item hsw (hq.opens hw), he]
    obtain ⟨e', he', hcause⟩ := leave_error (α := α × α) .list e
    refine ⟨e', ?_, hcause ▸ hwhy⟩
    show readPair item s' = _
    unfold readPair
    rw [Blanks.token hs (by decide)]
    simp only [Frame.opener, he, he']

end

/-! ### Scalars -/

section

variable {s s' t : List Char}

/-- The spellings of a string. -/
def Text (a : String) : Spelling := fun s t => ∃ r, s = '"' :: r ∧ Quoted a.toList r t

/-- The spelling of an index: its digits. -/
def Index (n : UInt64) : Spelling := fun s t => s = Number.decimalDigits n.toNat ++ t

/-- The spellings of a score: numbers that are read as this score on their own. -/
def Score (x : Number.Single) : Spelling := fun s t =>
  ∃ l : Literal, s = l.chars ++ t ∧ single.whole (String.ofList l.chars) = .ok x

/-- The spelling of a truth value. -/
def Truth (b : Bool) : Spelling := fun s t => s = (Tree.bool b).chars ++ t

/-- The spellings of a value that may be absent: `null` when it is. -/
def Nullable {α : Type} (spell : α → Spelling) : Option α → Spelling
  | none => fun s t => s = 'n' :: 'u' :: 'l' :: 'l' :: t
  | some a => spell a

/-- What is written for a string spells the string. -/
theorem text_stringText (a : String) (t : List Char) : Text a (stringText a ++ t) t := by
  have hchars (cs : List Char) : Quoted cs (cs.flatMap escapeChar ++ '"' :: t) t := by
    induction cs with
    | nil => exact .close
    | cons c cs ih =>
      rw [List.flatMap_cons, List.append_assoc]
      exact .char (escapeChar_spelled c _) ih
  refine ⟨a.toList.flatMap escapeChar ++ '"' :: t, ?_, hchars a.toList⟩
  rw [stringText, List.cons_append, List.append_assoc]
  rfl

theorem opens_quote (r : List Char) : Opens ('"' :: r) := ⟨_, _, rfl, by decide, by decide⟩

theorem text_reads (a : String) : Reads text a (Text a) where
  opens := by
    rintro s t ⟨r, rfl, -⟩
    exact opens_quote r
  read := by
    rintro s' s t hs ⟨r, rfl, hr⟩ -
    have hquote : readText s' = readString r := by
      unfold readText
      rw [hs.token (by decide)]
      rfl
    exact hquote.trans (readString_quoted hr)

theorem readNumber_literal (wanted : String) (l : Literal) (hs : Blanks s (l.chars ++ t))
    (ht : Stops t) : Yields (readNumber wanted s) l.value? t := by
  rw [l.readNumber_eq wanted hs]
  exact l.readNumeral_yields ht

/-- A number in range is read as a score. -/
theorem readSingle_literal (l : Literal) (hs : Blanks s (l.chars ++ t)) (ht : Stops t) :
    Yields (single.read s) (l.value?.map Numeral.toSingle) t := by
  have hread := readNumber_literal "f32" l hs ht
  show Yields (readSingle s) _ t
  unfold readSingle
  cases hv : l.value? with
  | none =>
    rw [hv] at hread
    obtain ⟨left, hread⟩ := hread
    rw [hread]
    exact ⟨left, rfl⟩
  | some n =>
    rw [hv] at hread
    rw [show readNumber "f32" s = .ok (n, t) from hread]
    rfl

/-- A number on its own is read as a score exactly if it is in range. -/
theorem single_whole_iff {l : Literal} {x : Number.Single} :
    single.whole (String.ofList l.chars) = .ok x ↔ l.value?.map Numeral.toSingle = some x := by
  have hread := readSingle_literal l (.none (l.chars ++ [])) stops_nil
  rw [List.append_nil] at hread
  unfold Reader.whole
  rw [String.toList_ofList]
  cases hv : l.value?.map Numeral.toSingle with
  | none =>
    rw [hv] at hread
    obtain ⟨left, hread⟩ := hread
    rw [hread]
    simp
  | some y =>
    rw [hv] at hread
    rw [show single.read l.chars = .ok (y, []) from hread]
    have hend : skipBlanks [] = [] := rfl
    simp only [hend, Option.some.injEq, Except.ok.injEq]

theorem single_reads (x : Number.Single) : Reads single x (Score x) where
  opens := by
    rintro s t ⟨l, rfl, -⟩
    exact l.opens t
  read := by
    rintro s' s t hs ⟨l, rfl, hx⟩ ht
    have hread := readSingle_literal l hs ht
    rw [single_whole_iff.1 hx] at hread
    exact hread

theorem index_reads (n : UInt64) : Reads index n (Index n) where
  opens := by
    rintro s t rfl
    rw [← Literal.chars_ofNat]
    exact Literal.opens _ t
  read := by
    rintro s' s t hs rfl ht
    rw [← Literal.chars_ofNat] at hs
    have hread := readNumber_literal "usize" _ hs ht
    rw [Literal.value?_ofNat n.toNat_lt] at hread
    show readIndex s' = _
    unfold readIndex
    rw [show readNumber "usize" s' = .ok (.unsigned n.toNat, t) from hread]
    simp only [UInt64.ofNat_toNat]

theorem bool_reads (b : Bool) : Reads bool b (Truth b) where
  opens := by
    rintro s t rfl
    cases b <;> exact ⟨_, _, rfl, by decide, by decide⟩
  read := by
    rintro s' s t hs rfl -
    show readBool s' = _
    unfold readBool
    cases b <;> rw [Blanks.token hs (by decide)] <;> rfl

theorem optionalText_reads (a : Option String) : Reads (optional text) a (Nullable Text a) where
  opens := by
    intro s t h
    cases a with
    | none => cases h; exact ⟨_, _, rfl, by decide, by decide⟩
    | some a => exact (text_reads a).opens h
  read := by
    intro s' s t hs h ht
    show readOptional text s' = _
    unfold readOptional
    cases a with
    | none =>
      cases h
      rw [hs.token (by decide)]
      rfl
    | some a =>
      have hread := (text_reads a).read (.none _) h ht
      obtain ⟨r, rfl, -⟩ := h
      rw [hs.token (by decide)]
      split
      · rename_i hn; cases hn
      · rw [hread]

end

end DecoderExport.Json
