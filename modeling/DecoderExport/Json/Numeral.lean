import DecoderExport.Json.Reader
import DecoderExport.Number.Scaling

/-!
# Numbers inside JSON text

`readNumeral` reads a number after its sign. A number without fraction and exponent that fits in 64
bits is an integer; any other is a float, found by the rule of `Number.scale?`. `skipNumeral` only
looks for the end of a number.
-/

namespace DecoderExport.Json

open DecoderExport.Number (Double)

/-- A number as it was written. -/
inductive Numeral where
  | unsigned (value : Nat)
  /-- The integer `-value`. -/
  | negative (value : Nat)
  | float (value : Double)

/-- The value of a decimal digit. -/
def digitValue (c : Char) : Nat := c.toNat - '0'.toNat

/-- The significands that fit in 64 bits are those below this bound. -/
def significandBound : Nat := 18446744073709551616

/-- The exponents that are taken as they are written are those below this bound. -/
def exponentBound : Nat := 2147483648

/-- A significand with more digits put behind it, as long as it fits in 64 bits; the digits that no
longer fit are returned with it. -/
def absorb (significand : Nat) : List Char → Nat × List Char
  | [] => (significand, [])
  | c :: digits =>
    let longer := significand * 10 + digitValue c
    if longer < significandBound then absorb longer digits else (significand, c :: digits)

/-- The float with the given sign, significand and exponent. -/
def floatNumeral (negative : Bool) (significand : Nat) (exponent : Int) (rest : List Char) :
    Outcome Numeral :=
  match Number.scale? significand exponent with
  | some pattern => .ok (.float (.ofPattern Number.double negative pattern), rest)
  | none => .error (.here .numberOutOfRange rest)

/-- The number that the digits of an exponent write, behind the digits read before, or what is left
once the number has become too large. -/
def readPower (power : Nat) : List Char → Except (List Char) (Nat × List Char)
  | [] => .ok (power, [])
  | c :: r =>
    if c.isDigit then
      let longer := power * 10 + digitValue c
      if longer < exponentBound then readPower longer r else .error r
    else .ok (power, c :: r)

/-- A float, after the sign of its exponent. -/
def readUnsignedExponent (negative : Bool) (significand : Nat) (start : Int) (raises : Bool)
    (s : List Char) : Outcome Numeral :=
  match s with
  | [] => .error (.next .endOfValue [])
  | c :: r =>
    if !c.isDigit then .error (.next .badNumber (c :: r))
    else
      match readPower 0 (c :: r) with
      | .ok (power, rest) =>
        floatNumeral negative significand (if raises then start + power else start - power) rest
      | .error rest =>
        if significand ≠ 0 && raises then .error (.here .numberOutOfRange rest)
        else .ok (.float (.ofPattern Number.double negative 0), rest.dropWhile Char.isDigit)

/-- A float, after the letter that begins its exponent. -/
def readExponent (negative : Bool) (significand : Nat) (start : Int) :
    List Char → Outcome Numeral
  | '+' :: r => readUnsignedExponent negative significand start true r
  | '-' :: r => readUnsignedExponent negative significand start false r
  | s => readUnsignedExponent negative significand start true s

/-- Whether a character begins an exponent. -/
def isExponentMark (c : Char) : Bool := c = 'e' || c = 'E'

/-- A float, after the point. Digits that no longer fit are dropped. -/
def readFraction (negative : Bool) (significand : Nat) (start : Int) (s : List Char) :
    Outcome Numeral :=
  let digits := s.takeWhile Char.isDigit
  let rest := s.dropWhile Char.isDigit
  let (longer, dropped) := absorb significand digits
  let exponent := start - (digits.length - dropped.length : Nat)
  if digits.isEmpty then
    .error (.next (if rest.isEmpty then .endOfValue else .badNumber) rest)
  else
    match rest with
    | c :: r =>
      if isExponentMark c then readExponent negative longer exponent r
      else floatNumeral negative longer exponent rest
    | [] => floatNumeral negative longer exponent rest

/-- The integer with the given sign, or the float nearest to it where the sign leaves the signed
64-bit integers; minus zero is a float. -/
def integerNumeral (negative : Bool) (value : Nat) : Numeral :=
  if !negative then .unsigned value
  else if value = 0 || 9223372036854775808 < value then .float (.ofNat Number.double true value)
  else .negative value

/-- A number that ends with its integer part; `dropped` of the digits did not fit. -/
def wholeNumeral (negative : Bool) (significand dropped : Nat) (rest : List Char) :
    Outcome Numeral :=
  if dropped = 0 then .ok (integerNumeral negative significand, rest)
  else floatNumeral negative significand dropped rest

/-- A number, after the digits before the point; `dropped` of them did not fit. -/
def readAfterInteger (negative : Bool) (significand dropped : Nat) (s : List Char) :
    Outcome Numeral :=
  match s with
  | c :: r =>
    if c = '.' then readFraction negative significand dropped r
    else if isExponentMark c then readExponent negative significand dropped r
    else wholeNumeral negative significand dropped s
  | [] => wholeNumeral negative significand dropped []

/-- A number, after its sign. A leading zero stands alone. -/
def readNumeral (negative : Bool) : List Char → Outcome Numeral
  | [] => .error (.next .endOfValue [])
  | c :: r =>
    if c = '0' then
      match r with
      | d :: _ =>
        if d.isDigit then .error (.next .badNumber r) else readAfterInteger negative 0 0 r
      | [] => readAfterInteger negative 0 0 r
    else if c.isDigit then
      let (significand, dropped) := absorb 0 ((c :: r).takeWhile Char.isDigit)
      readAfterInteger negative significand dropped.length ((c :: r).dropWhile Char.isDigit)
    else .error (.next .badNumber (c :: r))

theorem floatNumeral_rest {negative : Bool} {significand : Nat} {exponent : Int}
    {rest r : List Char} {a : Numeral}
    (h : floatNumeral negative significand exponent rest = .ok (a, r)) : r = rest := by
  unfold floatNumeral at h
  split at h
  · simp only [Except.ok.injEq, Prod.mk.injEq] at h; exact h.2.symm
  · simp at h

theorem wholeNumeral_rest {negative : Bool} {significand dropped : Nat} {rest r : List Char}
    {a : Numeral} (h : wholeNumeral negative significand dropped rest = .ok (a, r)) : r = rest := by
  unfold wholeNumeral at h
  split at h
  · simp only [Except.ok.injEq, Prod.mk.injEq] at h; exact h.2.symm
  · exact floatNumeral_rest h

theorem readPower_length {power n : Nat} {s r : List Char} (h : readPower power s = .ok (n, r)) :
    r.length ≤ s.length := by
  induction s generalizing power with
  | nil => simp only [readPower, Except.ok.injEq, Prod.mk.injEq] at h; simp [← h.2]
  | cons c s ih =>
    simp only [readPower] at h
    split at h
    · split at h
      · have := ih h; simp only [List.length_cons]; omega
      · simp at h
    · simp only [Except.ok.injEq, Prod.mk.injEq] at h; simp [← h.2]

theorem readPower_error_length {power : Nat} {s r : List Char}
    (h : readPower power s = .error r) : r.length ≤ s.length := by
  induction s generalizing power with
  | nil => simp [readPower] at h
  | cons c s ih =>
    simp only [readPower] at h
    split at h
    · split at h
      · have := ih h; simp only [List.length_cons]; omega
      · simp only [Except.error.injEq] at h; simp [h]
    · simp at h

theorem readUnsignedExponent_length {negative raises : Bool} {significand : Nat} {start : Int}
    {s r : List Char} {a : Numeral}
    (h : readUnsignedExponent negative significand start raises s = .ok (a, r)) :
    r.length ≤ s.length := by
  unfold readUnsignedExponent at h
  split at h
  · simp at h
  · split at h
    · simp at h
    · split at h
      · rename_i h'
        have := readPower_length h'
        rw [floatNumeral_rest h]; assumption
      · rename_i rest h'
        have := readPower_error_length h'
        split at h
        · simp at h
        · simp only [Except.ok.injEq, Prod.mk.injEq] at h
          have := length_dropWhile_le Char.isDigit rest
          rw [← h.2]; omega

theorem readExponent_length {negative : Bool} {significand : Nat} {start : Int}
    {s r : List Char} {a : Numeral}
    (h : readExponent negative significand start s = .ok (a, r)) : r.length ≤ s.length := by
  unfold readExponent at h
  split at h
  · have := readUnsignedExponent_length h; simp only [List.length_cons]; omega
  · have := readUnsignedExponent_length h; simp only [List.length_cons]; omega
  · exact readUnsignedExponent_length h

theorem readFraction_length {negative : Bool} {significand : Nat} {start : Int}
    {s r : List Char} {a : Numeral}
    (h : readFraction negative significand start s = .ok (a, r)) : r.length ≤ s.length := by
  have hs := length_dropWhile_le Char.isDigit s
  simp only [readFraction] at h
  split at h
  · simp at h
  · split at h
    · rename_i c r' hr
      rw [hr] at hs
      split at h
      · have := readExponent_length h; simp only [List.length_cons] at hs; omega
      · rw [floatNumeral_rest h, hr]; exact hs
    · rw [floatNumeral_rest h]; exact hs

theorem readAfterInteger_length {negative : Bool} {significand dropped : Nat}
    {s r : List Char} {a : Numeral}
    (h : readAfterInteger negative significand dropped s = .ok (a, r)) : r.length ≤ s.length := by
  unfold readAfterInteger at h
  split at h
  · split at h
    · have := readFraction_length h; simp only [List.length_cons]; omega
    · split at h
      · have := readExponent_length h; simp only [List.length_cons]; omega
      · exact Nat.le_of_eq (congrArg List.length (wholeNumeral_rest h))
  · exact Nat.le_of_eq (congrArg List.length (wholeNumeral_rest h))

theorem length_dropWhile_lt {p : Char → Bool} {c : Char} {s : List Char} (h : p c = true) :
    ((c :: s).dropWhile p).length < (c :: s).length := by
  have := length_dropWhile_le p s
  simp only [List.dropWhile_cons, h, if_true, List.length_cons]
  omega

theorem readNumeral_length {negative : Bool} {s r : List Char} {a : Numeral}
    (h : readNumeral negative s = .ok (a, r)) : r.length < s.length := by
  unfold readNumeral at h
  split at h
  · simp at h
  · rename_i c s
    split at h
    · split at h
      · split at h
        · simp at h
        · have := readAfterInteger_length h; simp only [List.length_cons] at *; omega
      · have := readAfterInteger_length h; simp only [List.length_cons]; omega
    · split at h
      · rename_i hc
        have := readAfterInteger_length h
        have := length_dropWhile_lt (s := s) hc
        omega
      · simp at h

/-- What is left after an exponent that is only skipped, after the letter that begins it. -/
def skipExponent (s : List Char) : Except Trouble (List Char) :=
  let digits := match s with
    | c :: r => if c = '+' || c = '-' then r else s
    | [] => s
  match digits with
  | c :: r =>
    if c.isDigit then .ok (r.dropWhile Char.isDigit) else .error (.next .badNumber (c :: r))
  | [] => .error (.next .badNumber [])

/-- What is left after a fraction that is only skipped, after the point. -/
def skipFraction (s : List Char) : Except Trouble (List Char) :=
  let rest := s.dropWhile Char.isDigit
  if (s.takeWhile Char.isDigit).isEmpty then .error (.next .badNumber rest)
  else
    match rest with
    | c :: r => if isExponentMark c then skipExponent r else .ok rest
    | [] => .ok rest

/-- What is left after the fraction and the exponent of a number that is only skipped. -/
def skipAfterInteger : List Char → Except Trouble (List Char)
  | c :: r =>
    if c = '.' then skipFraction r
    else if isExponentMark c then skipExponent r
    else .ok (c :: r)
  | [] => .ok []

/-- What is left after a number that is only skipped, after its sign. -/
def skipNumeral : List Char → Except Trouble (List Char)
  | [] => .error (.next .badNumber [])
  | c :: r =>
    if c = '0' then
      match r with
      | d :: _ => if d.isDigit then .error (.next .badNumber r) else skipAfterInteger r
      | [] => .ok []
    else if c.isDigit then skipAfterInteger (r.dropWhile Char.isDigit)
    else .error (.next .badNumber (c :: r))

theorem skipExponent_length {s r : List Char} (h : skipExponent s = .ok r) :
    r.length ≤ s.length := by
  have tail : ∀ {c : Char} {t : List Char} {n : Nat}, (c :: t).length ≤ n →
      (t.dropWhile Char.isDigit).length ≤ n := by
    intro c t n ht
    have := length_dropWhile_le Char.isDigit t
    simp only [List.length_cons] at ht
    omega
  unfold skipExponent at h
  simp only at h
  split at h
  · rename_i c t hd
    have hle : (c :: t).length ≤ s.length := by
      rw [← hd]
      split
      · split <;> simp
      · simp
    split at h
    · simp only [Except.ok.injEq] at h; rw [← h]; exact tail hle
    · simp at h
  · simp at h

theorem skipFraction_length {s r : List Char} (h : skipFraction s = .ok r) :
    r.length ≤ s.length := by
  have hs := length_dropWhile_le Char.isDigit s
  simp only [skipFraction] at h
  split at h
  · simp at h
  · split at h
    · rename_i c t hr
      rw [hr] at hs
      split at h
      · have := skipExponent_length h; simp only [List.length_cons] at hs; omega
      · simp only [Except.ok.injEq] at h; rw [← h, hr]; exact hs
    · simp only [Except.ok.injEq] at h; rw [← h]; exact hs

theorem skipAfterInteger_length {s r : List Char} (h : skipAfterInteger s = .ok r) :
    r.length ≤ s.length := by
  unfold skipAfterInteger at h
  split at h
  · split at h
    · have := skipFraction_length h; simp only [List.length_cons]; omega
    · split at h
      · have := skipExponent_length h; simp only [List.length_cons]; omega
      · simp only [Except.ok.injEq] at h; exact Nat.le_of_eq (congrArg List.length h.symm)
  · simp only [Except.ok.injEq] at h; exact Nat.le_of_eq (congrArg List.length h.symm)

theorem skipNumeral_length {s r : List Char} (h : skipNumeral s = .ok r) :
    r.length < s.length := by
  unfold skipNumeral at h
  split at h
  · simp at h
  · rename_i c s
    split at h
    · split at h
      · split at h
        · simp at h
        · have := skipAfterInteger_length h; simp only [List.length_cons] at *; omega
      · simp only [Except.ok.injEq] at h; simp [← h]
    · split at h
      · have := skipAfterInteger_length h
        have := length_dropWhile_le Char.isDigit s
        simp only [List.length_cons]
        omega
      · simp at h

end DecoderExport.Json
