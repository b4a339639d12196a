import DecoderExport.Json.Numeral
import DecoderExport.Json.Quoted

/-!
# Values that are only skipped

`skipValue` finds the end of a value of any kind and any depth. The lists and objects that are open
are kept on a stack, the innermost one first, so the depth is bounded by nothing but the text.
-/

namespace DecoderExport.Json

/-- A list or an object that has been opened and not yet closed. -/
inductive Frame where
  | list
  | object
  deriving DecidableEq, Repr

/-- The character that closes a frame. -/
def Frame.closer : Frame → Char
  | .list => ']'
  | .object => '\x7d'

/-- The trouble of a text that ends inside a frame. -/
def Frame.atEnd : Frame → Cause
  | .list => .endOfList
  | .object => .endOfObject

/-- The trouble of an item that is followed by neither a comma nor the closer. -/
def Frame.separatorWanted : Frame → Cause
  | .list => .listCommaOrEndWanted
  | .object => .objectCommaOrEndWanted

/-- What is left after the colon behind a key. -/
def readColon (s : List Char) : Except Trouble (List Char) :=
  match skipBlanks s with
  | ':' :: r => .ok r
  | [] => .error (.next .endOfObject [])
  | r => .error (.next .colonWanted r)

/-- What is left after a key and its colon that are only skipped. -/
def skipKey (s : List Char) : Except Trouble (List Char) :=
  match skipBlanks s with
  | '"' :: r =>
    match skipString r with
    | .error t => .error t
    | .ok r => readColon r
  | [] => .error (.next .endOfObject [])
  | r => .error (.next .keyNotString r)

/-- What is left after a value that is not a list or an object, or the frame that opens there with
what is left after its opening bracket. -/
def skipScalar (s : List Char) : Except Trouble (Option Frame × List Char) :=
  match skipBlanks s with
  | [] => .error (.next .endOfValue [])
  | 'n' :: r => (readWord ['u', 'l', 'l'] r).map (none, ·)
  | 't' :: r => (readWord ['r', 'u', 'e'] r).map (none, ·)
  | 'f' :: r => (readWord ['a', 'l', 's', 'e'] r).map (none, ·)
  | '-' :: r => (skipNumeral r).map (none, ·)
  | '"' :: r => (skipString r).map (none, ·)
  | '[' :: r => .ok (some .list, r)
  | '\x7b' :: r => .ok (some .object, r)
  | c :: r =>
    if c.isDigit then (skipNumeral (c :: r)).map (none, ·)
    else .error (.next .valueWanted (c :: r))

theorem readColon_length {s r : List Char} (h : readColon s = .ok r) : r.length < s.length := by
  have hs := length_skipBlanks_le s
  unfold readColon at h
  split at h
  · rename_i hr
    rw [hr] at hs
    simp only [Except.ok.injEq] at h
    simp only [List.length_cons, h] at hs
    omega
  · simp at h
  · simp at h

theorem skipKey_length {s r : List Char} (h : skipKey s = .ok r) : r.length < s.length := by
  have hs := length_skipBlanks_le s
  unfold skipKey at h
  split at h
  · rename_i hr
    rw [hr] at hs
    split at h
    · simp at h
    · rename_i h'
      have := skipString_length h'
      have := readColon_length h
      simp only [List.length_cons] at hs
      omega
  · simp at h
  · simp at h

theorem skipScalar_length {s r : List Char} {o : Option Frame} (h : skipScalar s = .ok (o, r)) :
    r.length < s.length := by
  have hs := length_skipBlanks_le s
  unfold skipScalar at h
  split at h
  · simp at h
  all_goals rename_i hr; rw [hr] at hs; simp only [List.length_cons] at hs
  · obtain ⟨t, ht, ⟨⟩⟩ := ok_of_map_ok h; have := readWord_length_le ht; omega
  · obtain ⟨t, ht, ⟨⟩⟩ := ok_of_map_ok h; have := readWord_length_le ht; omega
  · obtain ⟨t, ht, ⟨⟩⟩ := ok_of_map_ok h; have := readWord_length_le ht; omega
  · obtain ⟨t, ht, ⟨⟩⟩ := ok_of_map_ok h; have := skipNumeral_length ht; omega
  · obtain ⟨t, ht, ⟨⟩⟩ := ok_of_map_ok h; have := skipString_length ht; omega
  · cases h; omega
  · cases h; omega
  · split at h
    · obtain ⟨t, ht, ⟨⟩⟩ := ok_of_map_ok h
      have := skipNumeral_length ht
      simp only [List.length_cons] at this
      omega
    · simp at h

mutual

/-- What is left after a value and after all frames on the stack. -/
def skipValue (stack : List Frame) (s : List Char) : Except Trouble (List Char) :=
  match _h : skipScalar s with
  | .error t => .error t
  | .ok (none, r) => skipAfter stack r
  | .ok (some frame, r) =>
    match _h' : skipBlanks r with
    | [] => .error (.next frame.atEnd [])
    | c :: r' => if c = frame.closer then skipAfter stack r' else skipItem frame stack (c :: r')
termination_by (s.length, 0)
decreasing_by
  · exact .left _ _ (skipScalar_length _h)
  · have := skipScalar_length _h
    have := length_lt_of_skipBlanks _h'
    exact .left _ _ (by omega)
  · have := skipScalar_length _h
    have := length_lt_of_skipBlanks _h'
    exact .left _ _ (by rw [List.length_cons]; omega)

/-- What is left after a frame whose next item is about to begin, and after the frames around
it. -/
def skipItem (frame : Frame) (stack : List Frame) (s : List Char) : Except Trouble (List Char) :=
  match frame with
  | .list => skipValue (.list :: stack) s
  | .object =>
    match _h : skipKey s with
    | .error t => .error t
    | .ok r => skipValue (.object :: stack) r
termination_by (s.length, 1)
decreasing_by
  · exact .right _ (by decide)
  · exact .left _ _ (skipKey_length _h)

/-- What is left after the frames on the stack, the innermost of which has just had an item. -/
def skipAfter (stack : List Frame) (s : List Char) : Except Trouble (List Char) :=
  match stack with
  | [] => .ok s
  | frame :: stack =>
    match _h : skipBlanks s with
    | [] => .error (.next frame.atEnd [])
    | c :: r =>
      if c = ',' then skipItem frame stack r
      else if c = frame.closer then skipAfter stack r
      else .error (.next frame.separatorWanted (c :: r))
termination_by (s.length, 2)
decreasing_by
  all_goals
    have := length_lt_of_skipBlanks _h
    exact .left _ _ (by omega)

end

mutual

theorem skipValue_length {stack : List Frame} {s r : List Char} (h : skipValue stack s = .ok r) :
    r.length < s.length := by
  unfold skipValue at h
  split at h
  · simp at h
  · rename_i r' h'
    have := skipScalar_length h'
    have := skipAfter_length h
    omega
  · rename_i frame r' h'
    have := skipScalar_length h'
    split at h
    · simp at h
    · rename_i ht
      have := length_lt_of_skipBlanks ht
      split at h
      · have := skipAfter_length h; omega
      · have := skipItem_length h; rw [List.length_cons] at this; omega
termination_by (s.length, 0)
decreasing_by
  · exact .left _ _ (by omega)
  · exact .left _ _ (by rw [List.length_cons]; omega)
  · exact .left _ _ (by omega)

theorem skipItem_length {frame : Frame} {stack : List Frame} {s r : List Char}
    (h : skipItem frame stack s = .ok r) : r.length < s.length := by
  unfold skipItem at h
  split at h
  · exact skipValue_length h
  · split at h
    · simp at h
    · rename_i h'
      have := skipKey_length h'
      have := skipValue_length h
      omega
termination_by (s.length, 1)
decreasing_by
  · exact .right _ (by decide)
  · exact .left _ _ (by omega)

theorem skipAfter_length {stack : List Frame} {s r : List Char} (h : skipAfter stack s = .ok r) :
    r.length ≤ s.length := by
  unfold skipAfter at h
  split at h
  · simp only [Except.ok.injEq] at h; simp [h]
  · split at h
    · simp at h
    · rename_i ht
      have := length_lt_of_skipBlanks ht
      split at h
      · have := skipItem_length h; omega
      · split at h
        · have := skipAfter_length h; omega
        · simp at h
termination_by (s.length, 2)
decreasing_by
  · exact .left _ _ (by omega)
  · exact .left _ _ (by omega)

end

end DecoderExport.Json
