import DecoderExport.Json.Scalar
import DecoderExport.Json.Skip

/-!
# Readers of lists and pairs

`nextItem` steps to the next item of a list and `close` leaves a list or an object. Trouble inside
that has no place yet gets its place on leaving, once the closer has been looked for.
-/

namespace DecoderExport.Json

/-- Whether a list has another item, with the text at that item or at the closer. -/
def nextItem (first : Bool) (s : List Char) : Outcome Bool :=
  match skipBlanks s with
  | [] => .error (.next .endOfList [])
  | ']' :: r => .ok (false, ']' :: r)
  | c :: r =>
    if first then .ok (true, c :: r)
    else if c = ',' then
      match skipBlanks r with
      | [] => .error (.next .endOfValue [])
      | ']' :: r => .error (.next .trailingComma (']' :: r))
      | r => .ok (true, r)
    else .error (.next .listCommaOrEndWanted (c :: r))

/-- Looks for the closer of a frame: what is wrong there, if anything, and what is left. -/
def close (frame : Frame) (s : List Char) : Option Cause × List Char :=
  match frame, skipBlanks s with
  | _, [] => (some frame.atEnd, [])
  | .list, ']' :: r => (none, r)
  | .list, ',' :: r =>
    match skipBlanks r with
    | ']' :: r => (some .trailingComma, ']' :: r)
    | r => (some .trailingCharacters, r)
  | .object, '\x7d' :: r => (none, r)
  | .object, ',' :: r => (some .trailingComma, ',' :: r)
  | _, r => (some .trailingCharacters, r)

/-- Leaves a frame after its inside has been read. -/
def leave {α : Type} (frame : Frame) : Outcome α → Outcome α
  | .ok (a, s) =>
    match close frame s with
    | (none, r) => .ok (a, r)
    | (some cause, r) => .error (.next cause r)
  | .error (.placed cause left) => .error (.placed cause left)
  | .error (.pending cause rest) => .error (.here cause (close frame rest).2)

theorem nextItem_length {first b : Bool} {s r : List Char} (h : nextItem first s = .ok (b, r)) :
    r.length ≤ s.length := by
  have hs := length_skipBlanks_le s
  unfold nextItem at h
  split at h
  · simp at h
  · rename_i hr; cases h; rw [hr] at hs; exact hs
  · rename_i c t _ hr
    rw [hr] at hs
    split at h
    · cases h; exact hs
    · split at h
      · have ht := length_skipBlanks_le t
        simp only [List.length_cons] at hs
        split at h
        · simp at h
        · simp at h
        · cases h; omega
      · simp at h

theorem close_length {frame : Frame} {s r : List Char} (h : close frame s = (none, r)) :
    r.length < s.length := by
  have hs := length_skipBlanks_le s
  unfold close at h
  split at h
  · simp at h
  · rename_i hr; cases h; rw [hr] at hs; exact hs
  · split at h <;> simp at h
  · rename_i hr; cases h; rw [hr] at hs; exact hs
  · simp at h
  · simp at h

theorem leave_length {α : Type} {frame : Frame} {o : Outcome α} {a : α} {r : List Char}
    (h : leave frame o = .ok (a, r)) : ∃ s, o = .ok (a, s) ∧ r.length < s.length := by
  unfold leave at h
  split at h
  · rename_i b s
    split at h
    · rename_i hc; cases h; exact ⟨s, rfl, close_length hc⟩
    · simp at h
  · simp at h
  · simp at h

/-- The items of a list from the next one on; `done` holds those before, the last one first. -/
def readItems {α : Type} (item : Reader α) (first : Bool) (done : List α) (s : List Char) :
    Outcome (List α) :=
  match _h : nextItem first s with
  | .error t => .error t
  | .ok (false, r) => .ok (done.reverse, r)
  | .ok (true, r) =>
    match _h' : item.read r with
    | .error t => .error t
    | .ok (a, r) => readItems item false (a :: done) r
termination_by s.length
decreasing_by
  have := nextItem_length _h
  have := item.shrinks _h'
  omega

/-- A list. -/
def readList {α : Type} (item : Reader α) (s : List Char) : Outcome (List α) :=
  match skipBlanks s with
  | [] => .error (.next .endOfValue [])
  | '[' :: r => leave .list (readItems item true [] r)
  | r => .error (mismatch "a sequence" r)

/-- The two items of a pair. -/
def readBoth {α : Type} (item : Reader α) (s : List Char) : Outcome (α × α) :=
  match nextItem true s with
  | .error t => .error t
  | .ok (false, r) => .error (.pending (.wrongLength 0 "a tuple of size 2") r)
  | .ok (true, r) =>
    match item.read r with
    | .error t => .error t
    | .ok (a, r) =>
      match nextItem false r with
      | .error t => .error t
      | .ok (false, r) => .error (.pending (.wrongLength 1 "a tuple of size 2") r)
      | .ok (true, r) =>
        match item.read r with
        | .error t => .error t
        | .ok (b, r) => .ok ((a, b), r)

/-- A list of exactly two items. -/
def readPair {α : Type} (item : Reader α) (s : List Char) : Outcome (α × α) :=
  match skipBlanks s with
  | [] => .error (.next .endOfValue [])
  | '[' :: r => leave .list (readBoth item r)
  | r => .error (mismatch "a tuple of size 2" r)

theorem readItems_length {α : Type} {item : Reader α} {first : Bool} {done a : List α}
    {s r : List Char} (h : readItems item first done s = .ok (a, r)) : r.length ≤ s.length := by
  fun_induction readItems item first done s with
  | case1 => simp at h
  | case2 _ _ _ _ h' => cases h; exact nextItem_length h'
  | case3 => simp at h
  | case4 _ _ _ _ h' _ _ h'' ih =>
    have := nextItem_length h'
    have := item.shrinks h''
    have := ih h
    omega

theorem readList_shrinks {α : Type} (item : Reader α) : Shrinks (readList item) := by
  intro s a r h
  have hs := length_skipBlanks_le s
  unfold readList at h
  split at h
  · simp at h
  · rename_i hr
    rw [hr] at hs
    obtain ⟨t, ht, hlt⟩ := leave_length h
    have := readItems_length ht
    simp only [List.length_cons] at hs
    omega
  · simp at h

theorem readBoth_length {α : Type} {item : Reader α} {p : α × α} {s r : List Char}
    (h : readBoth item s = .ok (p, r)) : r.length ≤ s.length := by
  unfold readBoth at h
  split at h <;> try simp at h
  rename_i h1
  have := nextItem_length h1
  split at h <;> try simp at h
  rename_i h2
  have := item.shrinks h2
  split at h <;> try simp at h
  rename_i h3
  have := nextItem_length h3
  split at h <;> try simp at h
  rename_i h4
  have := item.shrinks h4
  obtain ⟨-, rfl⟩ := h
  omega

theorem readPair_shrinks {α : Type} (item : Reader α) : Shrinks (readPair item) := by
  intro s a r h
  have hs := length_skipBlanks_le s
  unfold readPair at h
  split at h
  · simp at h
  · rename_i hr
    rw [hr] at hs
    obtain ⟨t, ht, hlt⟩ := leave_length h
    have := readBoth_length ht
    simp only [List.length_cons] at hs
    omega
  · simp at h

/-- Reads a list. -/
def listOf {α : Type} (item : Reader α) : Reader (List α) := ⟨readList item, readList_shrinks item⟩

/-- Reads a list of exactly two items. -/
def pairOf {α : Type} (item : Reader α) : Reader (α × α) := ⟨readPair item, readPair_shrinks item⟩

end DecoderExport.Json
