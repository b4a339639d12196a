import DecoderExport.Json.Cause
import DecoderExport.Text.Utf8

/-!
# Readers of JSON text

A reader takes the text that is left and returns a value with what is left after it, or the trouble
it met. A `Reader` carries the proof that it uses up part of the text whenever it succeeds, which is
what ends every loop over the items of a list and the members of an object.

Places are kept as the number of bytes that are still unread. Most troubles know their place at
once. Those about a whole record do not; they get the place at which the record is left.
-/

namespace DecoderExport.Json

open DecoderExport.Text (byteCount)

/-- What went wrong, and where. -/
inductive Trouble where
  /-- The trouble lies where `left` bytes are unread. -/
  | placed (cause : Cause) (left : Nat)
  /-- The trouble has no place yet; `rest` is the text that was left when it was noticed. -/
  | pending (cause : Cause) (rest : List Char)

/-- Trouble just after the first byte of what is left, or at the end of the text. -/
def Trouble.next (cause : Cause) (rest : List Char) : Trouble :=
  .placed cause (byteCount rest - 1)

/-- Trouble just before what is left. -/
def Trouble.here (cause : Cause) (rest : List Char) : Trouble :=
  .placed cause (byteCount rest)

/-- Trouble with a place: a pending one gets the place where it was noticed. -/
def Trouble.settle : Trouble → Cause × Nat
  | .placed cause left => (cause, left)
  | .pending cause rest => (cause, byteCount rest)

/-- The outcome of reading: a value with the text that is left, or trouble. -/
abbrev Outcome (α : Type) := Except Trouble (α × List Char)

/-- Whether a reading function uses up part of the text whenever it succeeds. -/
def Shrinks {α : Type} (read : List Char → Outcome α) : Prop :=
  ∀ ⦃s : List Char⦄ ⦃a : α⦄ ⦃r : List Char⦄, read s = .ok (a, r) → r.length < s.length

/-- A reading function that uses up part of the text whenever it succeeds. -/
structure Reader (α : Type) where
  read : List Char → Outcome α
  shrinks : Shrinks read

/-- A result that was mapped comes from the result before. -/
theorem ok_of_map_ok {ε α β : Type} {f : α → β} {x : Except ε α} {b : β}
    (h : x.map f = .ok b) : ∃ a, x = .ok a ∧ f a = b := by
  cases x with
  | error e => simp [Except.map] at h
  | ok a => exact ⟨a, rfl, by simpa [Except.map] using h⟩

/-- The blanks that may stand between the tokens. -/
def isBlank (c : Char) : Bool := c = ' ' || c = '\n' || c = '\t' || c = '\r'

/-- What is left after the blanks. -/
def skipBlanks (s : List Char) : List Char := s.dropWhile isBlank

theorem length_dropWhile_le {α : Type} (p : α → Bool) (s : List α) :
    (s.dropWhile p).length ≤ s.length :=
  (List.dropWhile_suffix p).sublist.length_le

theorem length_skipBlanks_le (s : List Char) : (skipBlanks s).length ≤ s.length :=
  length_dropWhile_le _ s

theorem length_lt_of_skipBlanks {s r : List Char} {c : Char} (h : skipBlanks s = c :: r) :
    r.length < s.length := by
  have := length_skipBlanks_le s
  rw [h, List.length_cons] at this
  omega

/-- What is left after the rest of a word whose first letter has been read. -/
def readWord : List Char → List Char → Except Trouble (List Char)
  | [], s => .ok s
  | _ :: _, [] => .error (.next .endOfValue [])
  | w :: word, c :: s => if c = w then readWord word s else .error (.next .badWord (c :: s))

theorem readWord_length_le {word s r : List Char} (h : readWord word s = .ok r) :
    r.length ≤ s.length := by
  induction word generalizing s with
  | nil => simp only [readWord, Except.ok.injEq] at h; simp [h]
  | cons w word ih =>
    cases s with
    | nil => simp [readWord] at h
    | cons c s =>
      simp only [readWord] at h
      split at h
      · have := ih h; simp only [List.length_cons]; omega
      · simp at h

/-- A place in a text: the line, counted from one, and the bytes before the place on that line. -/
structure Place where
  line : Nat
  column : Nat
  deriving DecidableEq, Repr

/-- The place that lies `bytes` after a place from which a text runs. -/
def Place.advance (p : Place) : List Char → Nat → Place
  | [], _ => p
  | c :: s, bytes =>
    if bytes < c.utf8Size then { p with column := p.column + bytes }
    else if c = '\n' then advance ⟨p.line + 1, 0⟩ s (bytes - c.utf8Size)
    else advance { p with column := p.column + c.utf8Size } s (bytes - c.utf8Size)

/-- Why a whole text is refused, and where. -/
structure Refusal where
  cause : Cause
  place : Place

/-- The wording of a refusal. -/
def Refusal.message (e : Refusal) : String :=
  s!"{e.cause.message} at line {e.place.line} column {e.place.column}"

/-- The refusal of a text for some trouble. -/
def Refusal.ofTrouble (text : List Char) (t : Trouble) : Refusal :=
  let (cause, left) := t.settle
  ⟨cause, Place.advance ⟨1, 0⟩ text (byteCount text - left)⟩

/-- The value of a whole text: nothing but blanks may follow it. -/
def Reader.whole {α : Type} (r : Reader α) (text : String) : Except Refusal α :=
  match r.read text.toList with
  | .error t => .error (.ofTrouble text.toList t)
  | .ok (a, rest) =>
    match skipBlanks rest with
    | [] => .ok a
    | left => .error (.ofTrouble text.toList (.next .trailingCharacters left))

end DecoderExport.Json
