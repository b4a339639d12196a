import DecoderExport.Json.Reader

/-!
# Strings inside JSON text

`readString` decodes a string, `skipString` only looks for its end. Skipping is laxer: surrogates
need not come in pairs. Both start after the opening quote.
-/

namespace DecoderExport.Json

open DecoderExport.Text (byteCount)

/-- The value of a hexadecimal digit. -/
def hexDigit? (c : Char) : Option Nat :=
  if '0' ≤ c ∧ c ≤ '9' then some (c.toNat - '0'.toNat)
  else if 'a' ≤ c ∧ c ≤ 'f' then some (c.toNat - 'a'.toNat + 10)
  else if 'A' ≤ c ∧ c ≤ 'F' then some (c.toNat - 'A'.toNat + 10)
  else none

/-- The number that four hexadecimal digits write. -/
def hexFour? (a b c d : Char) : Option Nat := do
  let a ← hexDigit? a
  let b ← hexDigit? b
  let c ← hexDigit? c
  let d ← hexDigit? d
  return ((a * 16 + b) * 16 + c) * 16 + d

/-- The four digits of a code. Four bytes are taken before they are looked at. -/
def readHex : List Char → Outcome Nat
  | a :: b :: c :: d :: r =>
    match hexFour? a b c d with
    | some n => .ok (n, r)
    | none => .error (.placed .badEscape (byteCount (a :: b :: c :: d :: r) - 4))
  | s =>
    if byteCount s < 4 then .error (.next .endOfString [])
    else .error (.placed .badEscape (byteCount s - 4))

/-- Whether a code is the second half of a surrogate pair. -/
def isLowSurrogate (n : Nat) : Bool := 0xDC00 ≤ n && n ≤ 0xDFFF

/-- Whether a code is the first half of a surrogate pair. -/
def isHighSurrogate (n : Nat) : Bool := 0xD800 ≤ n && n ≤ 0xDBFF

/-- The second half of a surrogate pair, and the character of the pair. -/
def readLowHalf (high : Nat) : List Char → Outcome Char
  | '\\' :: 'u' :: r =>
    match readHex r with
    | .error t => .error t
    | .ok (low, r) =>
      if isLowSurrogate low then
        .ok (Char.ofNat (0x10000 + (high - 0xD800) * 0x400 + (low - 0xDC00)), r)
      else .error (.here .loneSurrogate r)
  | [] => .error (.next .endOfString [])
  | ['\\'] => .error (.next .endOfString [])
  | '\\' :: c :: r => .error (.next .endOfSurrogatePair (c :: r))
  | c :: r => .error (.next .endOfSurrogatePair (c :: r))

/-- The character of a code, after the `u`. -/
def readCode (s : List Char) : Outcome Char :=
  match readHex s with
  | .error t => .error t
  | .ok (n, r) =>
    if isLowSurrogate n then .error (.here .loneSurrogate r)
    else if isHighSurrogate n then readLowHalf n r
    else .ok (Char.ofNat n, r)

/-- The character that a letter after the backslash stands for. -/
def escaped? (c : Char) : Option Char :=
  if c = '"' || c = '\\' || c = '/' then some c
  else if c = 'b' then some '\x08'
  else if c = 'f' then some '\x0c'
  else if c = 'n' then some '\n'
  else if c = 'r' then some '\r'
  else if c = 't' then some '\t'
  else none

/-- The character of an escape, after the backslash. -/
def readEscape : List Char → Outcome Char
  | [] => .error (.next .endOfString [])
  | 'u' :: r => readCode r
  | c :: r =>
    match escaped? c with
    | some e => .ok (e, r)
    | none => .error (.next .badEscape (c :: r))

theorem readHex_length {s r : List Char} {n : Nat} (h : readHex s = .ok (n, r)) :
    r.length < s.length := by
  unfold readHex at h
  split at h
  · split at h
    · simp only [Except.ok.injEq, Prod.mk.injEq] at h; simp only [List.length_cons, ← h.2]; omega
    · simp at h
  · split at h <;> simp at h

theorem readLowHalf_length {high : Nat} {s r : List Char} {c : Char}
    (h : readLowHalf high s = .ok (c, r)) : r.length < s.length := by
  unfold readLowHalf at h
  split at h <;> try simp at h
  split at h
  · simp at h
  · rename_i h'
    have := readHex_length h'
    split at h
    · simp only [Except.ok.injEq, Prod.mk.injEq] at h; simp only [List.length_cons, ← h.2]; omega
    · simp at h

theorem readCode_length {s r : List Char} {c : Char} (h : readCode s = .ok (c, r)) :
    r.length < s.length := by
  unfold readCode at h
  split at h
  · simp at h
  · rename_i h'
    have := readHex_length h'
    split at h
    · simp at h
    · split at h
      · have := readLowHalf_length h; omega
      · simp only [Except.ok.injEq, Prod.mk.injEq] at h; rw [← h.2]; assumption

theorem readEscape_length {s r : List Char} {c : Char} (h : readEscape s = .ok (c, r)) :
    r.length < s.length := by
  unfold readEscape at h
  split at h
  · simp at h
  · have := readCode_length h; simp only [List.length_cons]; omega
  · split at h
    · simp only [Except.ok.injEq, Prod.mk.injEq] at h; simp [← h.2]
    · simp at h

/-- Reads on in a string; `done` holds the characters read so far, the last one first. -/
def readStringFrom (done : List Char) (s : List Char) : Outcome String :=
  match s with
  | [] => .error (.next .endOfString [])
  | '"' :: r => .ok (String.ofList done.reverse, r)
  | '\\' :: r =>
    match _h : readEscape r with
    | .error t => .error t
    | .ok (c, r) => readStringFrom (c :: done) r
  | c :: r =>
    if c < ' ' then .error (.next .controlCharacter (c :: r)) else readStringFrom (c :: done) r
termination_by s.length
decreasing_by
  · have := readEscape_length _h; simp only [List.length_cons]; omega
  · simp

/-- A string, after its opening quote. -/
def readString (s : List Char) : Outcome String := readStringFrom [] s

theorem readStringFrom_length {done s r : List Char} {a : String}
    (h : readStringFrom done s = .ok (a, r)) : r.length < s.length := by
  fun_induction readStringFrom done s with
  | case1 => simp at h
  | case2 => simp only [Except.ok.injEq, Prod.mk.injEq] at h; simp [h.2]
  | case3 => simp at h
  | case4 _ _ _ _ h' ih =>
    have := readEscape_length h'; have := ih h; simp only [List.length_cons]; omega
  | case5 => simp at h
  | case6 => rename_i ih; have := ih h; simp only [List.length_cons]; omega

theorem readString_length {s r : List Char} {a : String} (h : readString s = .ok (a, r)) :
    r.length < s.length := readStringFrom_length h

/-- What is left after an escape that is only skipped, after the backslash. -/
def skipEscape : List Char → Except Trouble (List Char)
  | [] => .error (.next .endOfString [])
  | 'u' :: r => (readHex r).map Prod.snd
  | c :: r =>
    match escaped? c with
    | some _ => .ok r
    | none => .error (.next .badEscape (c :: r))

theorem skipEscape_length {s r : List Char} (h : skipEscape s = .ok r) : r.length < s.length := by
  unfold skipEscape at h
  split at h
  · simp at h
  · rename_i s'
    cases h' : readHex s' with
    | error t => simp [h', Except.map] at h
    | ok p =>
      obtain ⟨n, r'⟩ := p
      simp only [h', Except.map, Except.ok.injEq] at h
      have := readHex_length h'
      subst h; simp only [List.length_cons]; omega
  · split at h
    · simp only [Except.ok.injEq] at h; simp [h]
    · simp at h

/-- What is left after a string that is only skipped, after its opening quote. -/
def skipString (s : List Char) : Except Trouble (List Char) :=
  match s with
  | [] => .error (.next .endOfString [])
  | '"' :: r => .ok r
  | '\\' :: r =>
    match _h : skipEscape r with
    | .error t => .error t
    | .ok r => skipString r
  | c :: r => if c < ' ' then .error (.here .controlCharacter (c :: r)) else skipString r
termination_by s.length
decreasing_by
  · have := skipEscape_length _h; simp only [List.length_cons]; omega
  · simp

theorem skipString_length {s r : List Char} (h : skipString s = .ok r) : r.length < s.length := by
  fun_induction skipString s with
  | case1 => simp at h
  | case2 => simp only [Except.ok.injEq] at h; simp [h]
  | case3 => simp at h
  | case4 _ _ h' ih =>
    have := skipEscape_length h'; have := ih h; simp only [List.length_cons]; omega
  | case5 => simp at h
  | case6 => rename_i ih; have := ih h; simp only [List.length_cons]; omega

end DecoderExport.Json
