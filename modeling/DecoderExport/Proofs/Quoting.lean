import DecoderExport.Proofs.Tokens
import Mathlib.Tactic.SplitIfs

/-!
# How strings are spelled

Every character has many spellings: itself unless it is a quote, a backslash or a control character,
a short escape if it has one, and its code, as a pair of surrogates above the first plane. A string
is read from any spelling of its characters. Where a string is only skipped, codes need not be those
of characters.
-/

namespace DecoderExport.Json

/-- The letters behind a backslash, with the characters that they stand for. -/
def shortEscapes : List (Char × Char) :=
  [('"', '"'), ('\\', '\\'), ('/', '/'), ('b', '\x08'), ('f', '\x0c'), ('n', '\n'), ('r', '\r'),
    ('t', '\t')]

/-- The spellings of a character inside a string. -/
inductive CharSpelled (c : Char) : Spelling
  | plain {t : List Char} (hc : ' ' ≤ c) (hq : c ≠ '"') (hb : c ≠ '\\') : CharSpelled c (c :: t) t
  | short {e : Char} {t : List Char} (h : (e, c) ∈ shortEscapes) :
      CharSpelled c ('\\' :: e :: t) t
  | code {d₁ d₂ d₃ d₄ : Char} {t : List Char} (h : hexFour? d₁ d₂ d₃ d₄ = some c.toNat) :
      CharSpelled c ('\\' :: 'u' :: d₁ :: d₂ :: d₃ :: d₄ :: t) t
  | pair {d₁ d₂ d₃ d₄ e₁ e₂ e₃ e₄ : Char} {high low : Nat} {t : List Char}
      (hhigh : hexFour? d₁ d₂ d₃ d₄ = some high) (hlow : hexFour? e₁ e₂ e₃ e₄ = some low)
      (hh : 0xD800 ≤ high ∧ high ≤ 0xDBFF) (hl : 0xDC00 ≤ low ∧ low ≤ 0xDFFF)
      (hc : c.toNat = 0x10000 + (high - 0xD800) * 0x400 + (low - 0xDC00)) :
      CharSpelled c
        ('\\' :: 'u' :: d₁ :: d₂ :: d₃ :: d₄ :: '\\' :: 'u' :: e₁ :: e₂ :: e₃ :: e₄ :: t) t

/-- The spellings of the characters of a string behind its opening quote, through the closing
one. -/
inductive Quoted : List Char → Spelling
  | close {t : List Char} : Quoted [] ('"' :: t) t
  | char {c : Char} {cs s t u : List Char} (hc : CharSpelled c s u) (hr : Quoted cs u t) :
      Quoted (c :: cs) s t

/-- Strings behind their opening quote that need not stand for a text. -/
inductive RawQuoted : Spelling
  | close {t : List Char} : RawQuoted ('"' :: t) t
  | plain {c : Char} {s t : List Char} (hc : ' ' ≤ c) (hq : c ≠ '"') (hb : c ≠ '\\')
      (hr : RawQuoted s t) : RawQuoted (c :: s) t
  | short {e : Char} {s t : List Char} (h : e ∈ shortEscapes.map Prod.fst) (hr : RawQuoted s t) :
      RawQuoted ('\\' :: e :: s) t
  | code {d₁ d₂ d₃ d₄ : Char} {s t : List Char} (h : (hexFour? d₁ d₂ d₃ d₄).isSome)
      (hr : RawQuoted s t) : RawQuoted ('\\' :: 'u' :: d₁ :: d₂ :: d₃ :: d₄ :: s) t

theorem escaped?_of_mem {e c : Char} (h : (e, c) ∈ shortEscapes) :
    escaped? e = some c ∧ e ≠ 'u' := by
  have hall : ∀ p ∈ shortEscapes, escaped? p.1 = some p.2 ∧ p.1 ≠ 'u' := by decide
  exact hall _ h

theorem readHex_eq {d₁ d₂ d₃ d₄ : Char} {n : Nat} (h : hexFour? d₁ d₂ d₃ d₄ = some n)
    (t : List Char) : readHex (d₁ :: d₂ :: d₃ :: d₄ :: t) = .ok (n, t) := by
  simp only [readHex, h]

/-- The code of a character is none of the surrogates. -/
theorem not_surrogate (c : Char) :
    isLowSurrogate c.toNat = false ∧ isHighSurrogate c.toNat = false := by
  have hv : c.toNat < 0xD800 ∨ 0xDFFF < c.toNat := by
    rcases c.valid with hlow | ⟨hhigh, -⟩
    · exact .inl hlow
    · exact .inr hhigh
  simp only [isLowSurrogate, isHighSurrogate, Bool.and_eq_false_iff, decide_eq_false_iff_not]
  omega

/-- Behind a backslash the spelled character is read. -/
theorem readEscape_eq {c : Char} {s t : List Char} (h : CharSpelled c ('\\' :: s) t) :
    readEscape s = .ok (c, t) := by
  cases h with
  | plain _ _ hb => exact absurd rfl hb
  | short h =>
    obtain ⟨he, hu⟩ := escaped?_of_mem h
    unfold readEscape
    split
    · rename_i hn; cases hn
    · rename_i hn; cases hn; exact absurd rfl hu
    · rename_i hn; cases hn; rw [he]
  | code h =>
    obtain ⟨hl, hh⟩ := not_surrogate c
    simp only [readEscape, readCode, readHex_eq h, hl, hh, Bool.false_eq_true, if_false,
      Char.ofNat_toNat]
  | @pair d₁ d₂ d₃ d₄ e₁ e₂ e₃ e₄ high low t hhigh hlow hh hl hc =>
    have hnl : isLowSurrogate high = false := by
      simp only [isLowSurrogate, Bool.and_eq_false_iff, decide_eq_false_iff_not]
      omega
    have hih : isHighSurrogate high = true := by
      simp only [isHighSurrogate, Bool.and_eq_true, decide_eq_true_eq]
      exact hh
    have hil : isLowSurrogate low = true := by
      simp only [isLowSurrogate, Bool.and_eq_true, decide_eq_true_eq]
      exact hl
    simp only [readEscape, readCode, readHex_eq hhigh, hnl, hih, Bool.false_eq_true, if_false,
      if_true, readLowHalf, readHex_eq hlow, hil, ← hc, Char.ofNat_toNat]

theorem readStringFrom_escape {c : Char} {s t : List Char} (h : readEscape s = .ok (c, t))
    (done : List Char) : readStringFrom done ('\\' :: s) = readStringFrom (c :: done) t := by
  rw [readStringFrom.eq_def]
  split
  · rename_i hn; cases hn
  · rename_i hn; cases hn
  · rename_i hn
    cases hn
    split
    · rename_i h'; rw [h] at h'; cases h'
    · rename_i h'; rw [h] at h'; cases h'; rfl
  · rename_i hne hn; cases hn; exact absurd rfl hne

theorem readStringFrom_plain {c : Char} (hc : ' ' ≤ c) (hq : c ≠ '"') (hb : c ≠ '\\')
    (done t : List Char) : readStringFrom done (c :: t) = readStringFrom (c :: done) t := by
  rw [readStringFrom.eq_def]
  split
  · rename_i hn; cases hn
  · rename_i hn; cases hn; exact absurd rfl hq
  · rename_i hn; cases hn; exact absurd rfl hb
  · rename_i hn; cases hn; rw [if_neg (Char.not_lt.2 hc)]

theorem readStringFrom_char {c : Char} {s t : List Char} (h : CharSpelled c s t)
    (done : List Char) : readStringFrom done s = readStringFrom (c :: done) t := by
  cases h with
  | plain hc hq hb => exact readStringFrom_plain hc hq hb done t
  | short h => exact readStringFrom_escape (readEscape_eq (.short h)) done
  | code h => exact readStringFrom_escape (readEscape_eq (.code h)) done
  | pair hhigh hlow hh hl hc =>
    exact readStringFrom_escape (readEscape_eq (.pair hhigh hlow hh hl hc)) done

theorem readStringFrom_quoted {cs s t : List Char} (h : Quoted cs s t) (done : List Char) :
    readStringFrom done s = .ok (String.ofList (done.reverse ++ cs), t) := by
  induction h generalizing done with
  | close =>
    rw [readStringFrom.eq_def, List.append_nil]
    rfl
  | char hc hr ih => rw [readStringFrom_char hc, ih, List.reverse_cons, List.append_assoc]; rfl

/-- A string is read from every spelling of its characters. -/
theorem readString_quoted {a : String} {s t : List Char} (h : Quoted a.toList s t) :
    readString s = .ok (a, t) := by
  rw [readString, readStringFrom_quoted h, List.reverse_nil, List.nil_append, String.ofList_toList]

theorem skipString_escape {s t : List Char} (h : skipEscape s = .ok t) :
    skipString ('\\' :: s) = skipString t := by
  rw [skipString.eq_def]
  split
  · rename_i hn; cases hn
  · rename_i hn; cases hn
  · rename_i hn
    cases hn
    split
    · rename_i h'; rw [h] at h'; cases h'
    · rename_i h'; rw [h] at h'; cases h'; rfl
  · rename_i hne hn; cases hn; exact absurd rfl hne

/-- A string is skipped through its closing quote. -/
theorem skipString_rawQuoted {s t : List Char} (h : RawQuoted s t) : skipString s = .ok t := by
  induction h with
  | close => rw [skipString.eq_def]; rfl
  | @plain c s t hc hq hb hr ih =>
    rw [← ih, skipString.eq_def (c :: s)]
    split
    · rename_i hn; cases hn
    · rename_i hn; cases hn; exact absurd rfl hq
    · rename_i hn; cases hn; exact absurd rfl hb
    · rename_i hn; cases hn; rw [if_neg (Char.not_lt.2 hc)]
  | @short e s t h hr ih =>
    obtain ⟨⟨e, c⟩, hmem, rfl⟩ := List.mem_map.1 h
    obtain ⟨he, hu⟩ := escaped?_of_mem hmem
    rw [← ih]
    apply skipString_escape
    unfold skipEscape
    split
    · rename_i hn; cases hn
    · rename_i hn; cases hn; exact absurd rfl hu
    · rename_i hn; cases hn; rw [he]
  | code h hr ih =>
    obtain ⟨n, hn⟩ := Option.isSome_iff_exists.1 h
    rw [← ih]
    apply skipString_escape
    rw [skipEscape, readHex_eq hn]
    rfl

/-- What is written for a character is one of its spellings. -/
theorem escapeChar_spelled (c : Char) (t : List Char) : CharSpelled c (escapeChar c ++ t) t := by
  have hhex : ∀ n < 32, Text.hex 4 n = ['0', '0', Nat.digitChar (n / 16), Nat.digitChar (n % 16)] ∧
      hexFour? '0' '0' (Nat.digitChar (n / 16)) (Nat.digitChar (n % 16)) = some n := by decide
  unfold escapeChar
  split_ifs with hq hb hf hn hr ht hc
  · simp only [Bool.or_eq_true, decide_eq_true_eq] at hq
    rcases hq with rfl | rfl <;> exact .short (by decide)
  · subst hb; exact .short (by decide)
  · subst hf; exact .short (by decide)
  · subst hn; exact .short (by decide)
  · subst hr; exact .short (by decide)
  · subst ht; exact .short (by decide)
  · obtain ⟨htext, hvalue⟩ := hhex c.toNat hc
    rw [htext]
    exact .code hvalue
  · simp only [Bool.or_eq_true, decide_eq_true_eq, not_or] at hq
    exact .plain (Char.not_lt.1 hc) hq.1 hq.2

end DecoderExport.Json
