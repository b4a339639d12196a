import DecoderExport.Json.Numeral
import DecoderExport.Json.Quoted

/-!
# Readers of strings, numbers and truth values

Each reader skips blanks, looks at the first character and reads one value. A value of another kind
is read as well, as far as a message has to show it, and then refused.
-/

namespace DecoderExport.Json

open DecoderExport.Number (Single)

/-- How a message names a number. -/
def Numeral.found : Numeral → Found
  | .unsigned n => .unsigned n
  | .negative n => .negative n
  | .float x => .float x

/-- The trouble of a value that was shown in full, or the trouble met on the way. -/
def shown {α : Type} (found : α → Found) (wanted : String) : Outcome α → Trouble
  | .ok (a, rest) => .here (.wrongType (found a) wanted) rest
  | .error t => t

/-- The trouble of a value that is not of the wanted kind. A list or an object is not entered. -/
def mismatch (wanted : String) : List Char → Trouble
  | 'n' :: r => shown (fun _ => .null) wanted ((readWord ['u', 'l', 'l'] r).map ((), ·))
  | 't' :: r => shown (fun _ => .bool true) wanted ((readWord ['r', 'u', 'e'] r).map ((), ·))
  | 'f' :: r => shown (fun _ => .bool false) wanted ((readWord ['a', 'l', 's', 'e'] r).map ((), ·))
  | '-' :: r => shown Numeral.found wanted (readNumeral true r)
  | '"' :: r => shown .string wanted (readString r)
  | '[' :: r => .here (.wrongType .sequence wanted) ('[' :: r)
  | '\x7b' :: r => .here (.wrongType .map wanted) ('\x7b' :: r)
  | c :: r =>
    if c.isDigit then shown Numeral.found wanted (readNumeral false (c :: r))
    else .next .valueWanted (c :: r)
  | [] => .next .valueWanted []

/-- A string. -/
def readText (s : List Char) : Outcome String :=
  match skipBlanks s with
  | [] => .error (.next .endOfValue [])
  | '"' :: r => readString r
  | r => .error (mismatch "a string" r)

/-- A number of any kind, with what is left after it. -/
def readNumber (wanted : String) (s : List Char) : Outcome Numeral :=
  match skipBlanks s with
  | [] => .error (.next .endOfValue [])
  | '-' :: r => readNumeral true r
  | c :: r => if c.isDigit then readNumeral false (c :: r) else .error (mismatch wanted (c :: r))

/-- The 32-bit number nearest to a number as it was written. -/
def Numeral.toSingle : Numeral → Single
  | .unsigned n => .ofNat Number.single false n
  | .negative n => .ofNat Number.single true n
  | .float x => x.convert Number.single

/-- A 32-bit floating point number; any number is taken. -/
def readSingle (s : List Char) : Outcome Single :=
  match readNumber "f32" s with
  | .ok (n, r) => .ok (n.toSingle, r)
  | .error t => .error t

/-- An index of 64 bits. -/
def readIndex (s : List Char) : Outcome UInt64 :=
  match readNumber "usize" s with
  | .ok (.unsigned n, r) => .ok (UInt64.ofNat n, r)
  | .ok (.negative n, r) => .error (.here (.wrongValue (.negative n) "usize") r)
  | .ok (.float x, r) => .error (.here (.wrongType (.float x) "usize") r)
  | .error t => .error t

/-- A truth value. -/
def readBool (s : List Char) : Outcome Bool :=
  match skipBlanks s with
  | [] => .error (.next .endOfValue [])
  | 't' :: r => (readWord ['r', 'u', 'e'] r).map (true, ·)
  | 'f' :: r => (readWord ['a', 'l', 's', 'e'] r).map (false, ·)
  | r => .error (mismatch "a boolean" r)

/-- A value that may be `null` instead. -/
def readOptional {α : Type} (item : Reader α) (s : List Char) : Outcome (Option α) :=
  match skipBlanks s with
  | 'n' :: r => (readWord ['u', 'l', 'l'] r).map (none, ·)
  | r =>
    match item.read r with
    | .ok (a, r) => .ok (some a, r)
    | .error t => .error t

theorem readText_shrinks : Shrinks readText := by
  intro s a r h
  have hs := length_skipBlanks_le s
  unfold readText at h
  split at h
  · simp at h
  · rename_i hr
    rw [hr] at hs
    have := readString_length h
    simp only [List.length_cons] at hs
    omega
  · simp at h

theorem readNumber_shrinks (wanted : String) : Shrinks (readNumber wanted) := by
  intro s a r h
  have hs := length_skipBlanks_le s
  unfold readNumber at h
  split at h
  · simp at h
  · rename_i hr
    rw [hr] at hs
    have := readNumeral_length h
    simp only [List.length_cons] at hs
    omega
  · rename_i hr
    rw [hr] at hs
    split at h
    · have := readNumeral_length h; omega
    · simp at h

theorem readSingle_shrinks : Shrinks readSingle := by
  intro s a r h
  unfold readSingle at h
  split at h
  · rename_i h'; cases h; exact readNumber_shrinks _ h'
  · simp at h

theorem readIndex_shrinks : Shrinks readIndex := by
  intro s a r h
  unfold readIndex at h
  split at h
  · rename_i h'; cases h; exact readNumber_shrinks _ h'
  all_goals simp at h

theorem readBool_shrinks : Shrinks readBool := by
  intro s a r h
  have hs := length_skipBlanks_le s
  unfold readBool at h
  split at h
  · simp at h
  · rename_i hr
    rw [hr] at hs
    obtain ⟨t, hw, ⟨⟩⟩ := ok_of_map_ok h
    have := readWord_length_le hw
    simp only [List.length_cons] at hs
    omega
  · rename_i hr
    rw [hr] at hs
    obtain ⟨t, hw, ⟨⟩⟩ := ok_of_map_ok h
    have := readWord_length_le hw
    simp only [List.length_cons] at hs
    omega
  · simp at h

theorem readOptional_shrinks {α : Type} (item : Reader α) : Shrinks (readOptional item) := by
  intro s a r h
  have hs := length_skipBlanks_le s
  unfold readOptional at h
  split at h
  · rename_i hr
    rw [hr] at hs
    obtain ⟨t, hw, ⟨⟩⟩ := ok_of_map_ok h
    have := readWord_length_le hw
    simp only [List.length_cons] at hs
    omega
  · split at h
    · rename_i h'
      cases h
      have := item.shrinks h'
      omega
    · simp at h

/-- Reads a string. -/
def text : Reader String := ⟨readText, readText_shrinks⟩

/-- Reads a 32-bit floating point number. -/
def single : Reader Single := ⟨readSingle, readSingle_shrinks⟩

/-- Reads an index of 64 bits. -/
def index : Reader UInt64 := ⟨readIndex, readIndex_shrinks⟩

/-- Reads a truth value. -/
def bool : Reader Bool := ⟨readBool, readBool_shrinks⟩

/-- Reads a value or `null`. -/
def optional {α : Type} (item : Reader α) : Reader (Option α) :=
  ⟨readOptional item, readOptional_shrinks item⟩

end DecoderExport.Json
