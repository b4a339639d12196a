import DecoderExport.Json.Record

/-!
# Blanks and tokens

A spelling relates a text to what is left of it, so that spellings put one after the other need no
concatenation. `Blanks s t` says that `s` is `t` with blanks in front. A reader that looks for a
token finds it behind any number of blanks; each lemma here is about one such look.
-/

namespace DecoderExport.Json

/-- Texts that spell something, each with the text that is left after it. -/
abbrev Spelling := List Char → List Char → Prop

/-- Blanks in front of the text that is left. -/
inductive Blanks : Spelling
  | none (t : List Char) : Blanks t t
  | more {c : Char} {s t : List Char} (hc : isBlank c = true) (h : Blanks s t) : Blanks (c :: s) t

/-- A run of characters ends where the text goes on with another one. -/
theorem dropWhile_append_stop {p : Char → Bool} {run t : List Char} (hrun : ∀ c ∈ run, p c = true)
    (ht : ∀ c r, t = c :: r → p c = false) : (run ++ t).dropWhile p = t := by
  rw [List.dropWhile_append_of_pos hrun]
  cases t with
  | nil => rfl
  | cons c r => rw [List.dropWhile_cons, ht c r rfl]; rfl

theorem takeWhile_append_stop {α : Type} {p : α → Bool} {run t : List α}
    (hrun : ∀ c ∈ run, p c = true) (ht : ∀ c r, t = c :: r → p c = false) :
    (run ++ t).takeWhile p = run := by
  rw [List.takeWhile_append_of_pos hrun]
  cases t with
  | nil => simp
  | cons c r => rw [List.takeWhile_cons, ht c r rfl]; simp

/-- What stands between the items of a frame: a comma, but not before the first item. -/
inductive Separator : Bool → Spelling
  | first {s t : List Char} (h : Blanks s t) : Separator true s t
  | next {s r t : List Char} (h : Blanks s (',' :: r)) (hr : Blanks r t) : Separator false s t

/-- The text begins like a value, and not with a blank or with the end of a list. -/
def Opens (s : List Char) : Prop := ∃ c r, s = c :: r ∧ isBlank c = false ∧ c ≠ ']'

/-- The text does not go on with a number that ends before it. -/
def Stops (t : List Char) : Prop :=
  ∀ c r, t = c :: r → c.isDigit = false ∧ c ≠ '.' ∧ isExponentMark c = false

theorem skipBlanks_cons {c : Char} (hc : isBlank c = false) (s : List Char) :
    skipBlanks (c :: s) = c :: s := by
  rw [skipBlanks, List.dropWhile_cons, hc]
  rfl

namespace Blanks

variable {s t : List Char}

theorem skip (h : Blanks s t) : skipBlanks s = skipBlanks t := by
  induction h with
  | none t => rfl
  | more hc h ih =>
    rw [← ih, skipBlanks, List.dropWhile_cons, if_pos hc]
    rfl

/-- Behind the blanks a token is found. -/
theorem token {c : Char} (h : Blanks s (c :: t)) (hc : isBlank c = false) :
    skipBlanks s = c :: t := by
  rw [h.skip, skipBlanks_cons hc]

theorem opens (h : Blanks s t) (ht : Opens t) :
    ∃ c r, t = c :: r ∧ skipBlanks s = c :: r ∧ c ≠ ']' := by
  obtain ⟨c, r, rfl, hb, hc⟩ := ht
  exact ⟨c, r, rfl, h.token hb, hc⟩

/-- A blank does not go on with a number. -/
theorem stops (h : Blanks s t) (ht : Stops t) : Stops s := by
  cases h with
  | none t => exact ht
  | more hc h =>
    rintro c r ⟨⟩
    simp only [isBlank, Bool.or_eq_true, decide_eq_true_eq] at hc
    obtain ((rfl | rfl) | rfl) | rfl := hc <;> decide

end Blanks

theorem stops_nil : Stops [] := nofun

theorem stops_cons {c : Char} (hd : c.isDigit = false) (hp : c ≠ '.')
    (he : isExponentMark c = false) (r : List Char) : Stops (c :: r) := by
  rintro c' r' ⟨⟩
  exact ⟨hd, hp, he⟩

/-- A separator does not go on with a number. -/
theorem Separator.stops {s t : List Char} (h : Separator false s t) : Stops s := by
  cases h with
  | next h hr => exact h.stops (stops_cons (by decide) (by decide) (by decide) _)

section

variable {s t : List Char}

theorem readColon_eq (h : Blanks s (':' :: t)) : readColon s = .ok t := by
  unfold readColon
  rw [h.token (by decide)]
  rfl

theorem nextItem_end (first : Bool) (h : Blanks s (']' :: t)) :
    nextItem first s = .ok (false, ']' :: t) := by
  unfold nextItem
  rw [h.token (by decide)]
  rfl

theorem nextItem_item {first : Bool} (h : Separator first s t) (ht : Opens t) :
    nextItem first s = .ok (true, t) := by
  cases h with
  | first h =>
    obtain ⟨c, r, rfl, hs, hc⟩ := h.opens ht
    unfold nextItem
    rw [hs]
    split
    · rename_i hn; cases hn
    · rename_i hn; cases hn; exact absurd rfl hc
    · rename_i hn; cases hn; rfl
  | next h hr =>
    obtain ⟨c, u, rfl, hskip, hc⟩ := hr.opens ht
    unfold nextItem
    rw [h.token (by decide)]
    split
    · rename_i hn; cases hn
    · rename_i hn; cases hn
    · rename_i hn
      cases hn
      rw [if_neg (by decide), if_pos rfl, hskip]
      split
      · rename_i hn; cases hn
      · rename_i hn; cases hn; exact absurd rfl hc
      · rfl

theorem nextKey_end (first : Bool) (h : Blanks s ('\x7d' :: t)) :
    nextKey first s = .ok (false, '\x7d' :: t) := by
  unfold nextKey
  rw [h.token (by decide)]
  rfl

theorem nextKey_key {first : Bool} (h : Separator first s ('"' :: t)) :
    nextKey first s = .ok (true, t) := by
  cases h with
  | first h =>
    unfold nextKey
    rw [h.token (by decide)]
    rfl
  | next h hr =>
    unfold nextKey
    rw [h.token (by decide)]
    split
    · rename_i hn; cases hn
    · rename_i hn; cases hn
    · rename_i hn
      cases hn
      rw [if_neg (by decide), if_pos rfl, hr.token (by decide)]
      rfl

/-- A frame is left at its closer. -/
theorem leave_closer {α : Type} {frame : Frame} (a : α) (h : Blanks s (frame.closer :: t)) :
    leave frame (.ok (a, s)) = .ok (a, t) := by
  have hclose : close frame s = (none, t) := by
    cases frame <;> unfold close <;> rw [h.token (by decide)] <;> rfl
  rw [leave, hclose]

end

/-- What went wrong, without the place. -/
def Trouble.cause : Trouble → Cause
  | .placed cause _ => cause
  | .pending cause _ => cause

/-- Leaving a frame does not change what went wrong inside. -/
theorem leave_error {α : Type} (frame : Frame) (e : Trouble) :
    ∃ e', leave frame (.error e : Outcome α) = .error e' ∧ e'.cause = e.cause := by
  cases e with
  | placed cause left => exact ⟨_, rfl, rfl⟩
  | pending cause rest => exact ⟨_, rfl, rfl⟩

end DecoderExport.Json
