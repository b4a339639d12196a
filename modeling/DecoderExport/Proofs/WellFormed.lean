import DecoderExport.Proofs.Literal
import DecoderExport.Proofs.Quoting

/-!
# Skipping well-formed values

The grammar of JSON values of any kind and depth, and that a value of the grammar is skipped through
its end. A frame that is open is part of the grammar, so that one induction covers values and what
follows an item inside a list or an object.
-/

namespace DecoderExport.Json

/-- The character that opens a frame. -/
def Frame.opener : Frame → Char
  | .list => '['
  | .object => '\x7b'

/-- Values without parts. -/
inductive Scalar : Spelling
  | null {t : List Char} : Scalar ('n' :: 'u' :: 'l' :: 'l' :: t) t
  | true {t : List Char} : Scalar ('t' :: 'r' :: 'u' :: 'e' :: t) t
  | false {t : List Char} : Scalar ('f' :: 'a' :: 'l' :: 's' :: 'e' :: t) t
  | number (l : Literal) {t : List Char} : Scalar (l.chars ++ t) t
  | string {s t : List Char} (h : RawQuoted s t) : Scalar ('"' :: s) t

/-- What stands before the value of an item: nothing in a list, a key with its colon in an
object. -/
inductive Lead : Frame → Spelling
  | item {t : List Char} : Lead .list t t
  | key {s r u t : List Char} (hk : RawQuoted s r) (hr : Blanks r (':' :: u)) (hu : Blanks u t) :
      Lead .object ('"' :: s) t

/-- Well-formed values. Inside a frame: its items from the next one on, through the closer; the flag
says whether the next item is the first. -/
inductive WellFormed : Option (Frame × Bool) → Spelling
  | scalar {s t : List Char} (h : Scalar s t) : WellFormed none s t
  | framed {frame : Frame} {s t : List Char} (h : WellFormed (some (frame, .true)) s t) :
      WellFormed none (frame.opener :: s) t
  | close {frame : Frame} {first : Bool} {s t : List Char} (h : Blanks s (frame.closer :: t)) :
      WellFormed (some (frame, first)) s t
  | item {frame : Frame} {first : Bool} {s a b c t : List Char} (hs : Separator first s a)
      (ha : Lead frame a b) (hb : WellFormed none b c)
      (hc : WellFormed (some (frame, .false)) c t) : WellFormed (some (frame, first)) s t

theorem Frame.closer_not_blank (frame : Frame) : isBlank frame.closer = false := by
  cases frame <;> decide

theorem Frame.closer_stops (frame : Frame) (t : List Char) : Stops (frame.closer :: t) := by
  cases frame <;> exact stops_cons (by decide) (by decide) (by decide) t

theorem Scalar.opens {s t : List Char} (h : Scalar s t) : Opens s := by
  cases h with
  | number l => exact l.opens t
  | _ => exact ⟨_, _, rfl, by decide, by decide⟩

theorem WellFormed.opens {s t : List Char} (h : WellFormed none s t) : Opens s := by
  cases h with
  | scalar h => exact h.opens
  | @framed frame _ _ h => cases frame <;> exact ⟨_, _, rfl, by decide, by decide⟩

theorem WellFormed.stops {frame : Frame} {s t : List Char}
    (h : WellFormed (some (frame, false)) s t) : Stops s := by
  cases h with
  | close h => exact h.stops (frame.closer_stops t)
  | item hs _ _ _ => exact hs.stops

section

variable {s s' a b t : List Char}

/-- A value that begins with a digit is a number. -/
theorem skipScalar_digit {c : Char} (h : Blanks s (c :: t)) (hc : c.isDigit = true) :
    skipScalar s = (skipNumeral (c :: t)).map (none, ·) := by
  unfold skipScalar
  rw [h.token (isBlank_digit hc)]
  split <;> rename_i hn <;> cases hn
  iterate 7 exact absurd hc (by decide)
  rw [if_pos hc]

theorem skipScalar_number (l : Literal) (h : Blanks s (l.chars ++ t)) (ht : Stops t) :
    skipScalar s = .ok (none, t) := by
  have hend := l.skipNumeral_eq ht
  unfold Literal.chars at h
  cases hn : l.negative with
  | true =>
    rw [hn] at h
    have hminus : skipScalar s = (skipNumeral (l.unsigned ++ t)).map (none, ·) := by
      unfold skipScalar
      rw [Blanks.token h (by decide)]
      rfl
    rw [hminus, hend]
    rfl
  | false =>
    obtain ⟨c, r, hcr, hc⟩ := l.unsigned_cons
    rw [hn, hcr] at h
    rw [hcr] at hend
    rw [skipScalar_digit h hc]
    exact congrArg (Except.map _) hend

theorem skipScalar_eq (h : Scalar s t) (hs : Blanks s' s) (ht : Stops t) :
    skipScalar s' = .ok (none, t) := by
  cases h with
  | number l => exact skipScalar_number l hs ht
  | @string q _ h =>
    have hquote : skipScalar s' = (skipString q).map (none, ·) := by
      unfold skipScalar
      rw [hs.token (by decide)]
      rfl
    rw [hquote, skipString_rawQuoted h]
    rfl
  | _ =>
    unfold skipScalar
    rw [hs.token (by decide)]
    rfl

theorem skipScalar_opener (frame : Frame) (h : Blanks s (frame.opener :: t)) :
    skipScalar s = .ok (some frame, t) := by
  unfold skipScalar
  cases frame <;> rw [h.token (by decide)] <;> rfl

theorem skipValue_scalar {stack : List Frame} (h : skipScalar s = .ok (none, t)) :
    skipValue stack s = skipAfter stack t := by
  rw [skipValue.eq_def]
  split
  · rename_i h'; rw [h] at h'; cases h'
  · rename_i h'; rw [h] at h'; cases h'; rfl
  · rename_i h'; rw [h] at h'; cases h'

/-- Behind the bracket that opens a frame stand its closer or its first item. -/
theorem skipValue_frame {stack : List Frame} {frame : Frame} {c : Char} {r : List Char}
    (h : skipScalar s = .ok (some frame, a)) (ha : skipBlanks a = c :: r) :
    skipValue stack s =
      if c = frame.closer then skipAfter stack r else skipItem frame stack (c :: r) := by
  rw [skipValue.eq_def]
  split
  · rename_i h'; rw [h] at h'; cases h'
  · rename_i h'; rw [h] at h'; cases h'
  · rename_i h'
    rw [h] at h'
    cases h'
    split
    · rename_i h'; rw [ha] at h'; cases h'
    · rename_i h'; rw [ha] at h'; cases h'; rfl

theorem skipAfter_cons {stack : List Frame} {frame : Frame} {c : Char} {r : List Char}
    (h : skipBlanks s = c :: r) :
    skipAfter (frame :: stack) s =
      if c = ',' then skipItem frame stack r
      else if c = frame.closer then skipAfter stack r
      else .error (.next frame.separatorWanted (c :: r)) := by
  rw [skipAfter.eq_def]
  simp only
  split
  · rename_i h'; rw [h] at h'; cases h'
  · rename_i h'; rw [h] at h'; cases h'; rfl

theorem skipAfter_closer {stack : List Frame} {frame : Frame}
    (h : Blanks s (frame.closer :: t)) : skipAfter (frame :: stack) s = skipAfter stack t := by
  have hcomma : frame.closer ≠ ',' := by cases frame <;> decide
  rw [skipAfter_cons (h.token frame.closer_not_blank), if_neg hcomma, if_pos rfl]

theorem skipItem_lead (stack : List Frame) {frame : Frame} (h : Lead frame a b)
    (hs : Blanks s a) :
    ∃ s', Blanks s' b ∧ skipItem frame stack s = skipValue (frame :: stack) s' := by
  cases h with
  | item => exact ⟨s, hs, by rw [skipItem.eq_def]⟩
  | @key q r u t hk hr hu =>
    refine ⟨u, hu, ?_⟩
    have hkey : skipKey s = .ok u := by
      unfold skipKey
      rw [hs.token (by decide)]
      simp only [skipString_rawQuoted hk, readColon_eq hr]
    rw [skipItem.eq_def]
    simp only
    split
    · rename_i h'; rw [hkey] at h'; cases h'
    · rename_i h'; rw [hkey] at h'; cases h'; rfl

/-- The first item of a frame does not begin with the closer of the frame. -/
theorem Lead.opens {frame : Frame} (h : Lead frame a b) (hb : Opens b) :
    ∃ c r, a = c :: r ∧ isBlank c = false ∧ c ≠ frame.closer := by
  cases h with
  | item => exact hb
  | key => exact ⟨_, _, rfl, by decide, by decide⟩

end

/-- A value is skipped through its end, and the items of a frame through its closer. -/
theorem WellFormed.skips {inside : Option (Frame × Bool)} {s t : List Char}
    (h : WellFormed inside s t) (stack : List Frame) :
    match inside with
    | none => ∀ s', Blanks s' s → Stops t → skipValue stack s' = skipAfter stack t
    | some (frame, true) =>
      ∀ s', Blanks s' (frame.opener :: s) → skipValue stack s' = skipAfter stack t
    | some (frame, false) => skipAfter (frame :: stack) s = skipAfter stack t := by
  -- The stack is arbitrary: the value of an item is skipped with one more frame on it.
  induction h generalizing stack with
  | scalar h => exact fun s' hs ht => skipValue_scalar (skipScalar_eq h hs ht)
  | framed h ih => exact fun s' hs _ => ih stack s' hs
  | @close frame first s t h =>
    cases first with
    | false => exact skipAfter_closer h
    | true =>
      intro s' hs
      rw [skipValue_frame (skipScalar_opener frame hs) (h.token frame.closer_not_blank), if_pos rfl]
  | @item frame first s a b c t hs ha hb hc ihb ihc =>
    cases hs with
    | first hs =>
      intro s' hs'
      obtain ⟨d, r, rfl, hblank, hd⟩ := ha.opens hb.opens
      obtain ⟨u, hu, hitem⟩ := skipItem_lead stack ha (.none _)
      rw [skipValue_frame (skipScalar_opener frame hs') (hs.token hblank), if_neg hd, hitem,
        ihb _ _ hu hc.stops, ihc]
    | next hs hr =>
      obtain ⟨u, hu, hitem⟩ := skipItem_lead stack ha hr
      simp only
      rw [skipAfter_cons (hs.token (by decide)), if_pos rfl, hitem, ihb _ _ hu hc.stops, ihc]

/-- A whole value is skipped through its end. -/
theorem WellFormed.skipValue_eq {s s' t : List Char} (h : WellFormed none s t) (hs : Blanks s' s)
    (ht : Stops t) : skipValue [] s' = .ok t := by
  rw [h.skips [] _ hs ht, skipAfter.eq_def]

end DecoderExport.Json
