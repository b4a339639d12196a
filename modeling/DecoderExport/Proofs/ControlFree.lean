import DecoderExport.Boundary.Context
import DecoderExport.Proofs.NumberText
import Mathlib.Tactic.SplitIfs

/-!
# Rendered text has no control characters

Whatever a tree holds, its text consists of characters from the blank on, and so does the UTF-8 form
of that text. In particular it has no zero byte, so it always crosses the boundary.
-/

namespace DecoderExport

open DecoderExport.Json (Tree)

/-- Whether no character is a control character below the blank. -/
def ControlFree (s : List Char) : Prop := ∀ c ∈ s, ' ' ≤ c

namespace ControlFree

theorem nil : ControlFree [] := nofun

theorem cons {c : Char} {s : List Char} (hc : ' ' ≤ c) (hs : ControlFree s) :
    ControlFree (c :: s) :=
  List.forall_mem_cons.2 ⟨hc, hs⟩

theorem of_all {s : List Char} (h : s.all (' ' ≤ ·)) : ControlFree s :=
  fun c hc => of_decide_eq_true (List.all_eq_true.1 h c hc)

theorem append {s t : List Char} (hs : ControlFree s) (ht : ControlFree t) :
    ControlFree (s ++ t) :=
  List.forall_mem_append.2 ⟨hs, ht⟩

theorem replicate {c : Char} (hc : ' ' ≤ c) (n : Nat) : ControlFree (List.replicate n c) :=
  fun d hd => by rw [(List.mem_replicate.1 hd).2]; exact hc

theorem digitChar : (n : Nat) → ' ' ≤ Nat.digitChar n
  | 0 | 1 | 2 | 3 | 4 | 5 | 6 | 7 | 8 | 9 | 10 | 11 | 12 | 13 | 14 | 15 => by decide
  | n + 16 => by
    have h : Nat.digitChar (n + 16) = '*' := by simp [Nat.digitChar]
    rw [h]
    decide

theorem toDigits (base n : Nat) : ControlFree (Nat.toDigits base n) := by
  have hcore (fuel : Nat) : ∀ (n : Nat) (s : List Char), ControlFree s →
      ControlFree (Nat.toDigitsCore base fuel n s) := by
    induction fuel with
    | zero => intro n s hs; exact hs
    | succ fuel ih =>
      intro n s hs
      rw [Nat.toDigitsCore]
      split
      · exact cons (digitChar _) hs
      · exact ih _ _ (cons (digitChar _) hs)
  exact hcore _ n [] nil

theorem hex (width n : Nat) : ControlFree (Text.hex width n) :=
  append (replicate (by decide) _) (toDigits 16 n)

theorem of_numberText {s : List Char} (h : NumberText s) : ControlFree s := by
  intro c hc
  have hchar := h c hc
  simp only [isNumberChar, Bool.or_eq_true, decide_eq_true_eq] at hchar
  obtain (((hd | rfl) | rfl) | rfl) | rfl := hchar
  · have hdigit : '0' ≤ c := by
      simp only [Char.isDigit, Bool.and_eq_true, decide_eq_true_eq] at hd
      exact hd.1
    exact Char.le_trans (by decide) hdigit
  all_goals decide

theorem floatText {f : Number.Format} (style : Number.Style) (x : Number.Binary f) :
    ControlFree (Json.floatText style x) := by
  unfold Json.floatText
  split
  · exact of_numberText (.text style x)
  · exact of_all rfl

theorem escapeChar (c : Char) : ControlFree (Json.escapeChar c) := by
  unfold Json.escapeChar
  split_ifs with hq
  · have : ' ' ≤ c := by
      simp only [Bool.or_eq_true, decide_eq_true_eq] at hq
      rcases hq with rfl | rfl <;> decide
    exact cons (by decide) (cons this nil)
  · exact cons (by decide) (cons (by decide) nil)
  · exact cons (by decide) (cons (by decide) nil)
  · exact cons (by decide) (cons (by decide) nil)
  · exact cons (by decide) (cons (by decide) nil)
  · exact cons (by decide) (cons (by decide) nil)
  · exact cons (by decide) (cons (by decide) (hex 4 _))
  · rename_i hc
    exact cons (Char.not_lt.1 hc) nil

theorem stringText (s : String) : ControlFree (Json.stringText s) := by
  refine cons (by decide) (append ?_ (cons (by decide) nil))
  intro c hc
  obtain ⟨d, -, hd⟩ := List.mem_flatMap.1 hc
  exact escapeChar d c hd

mutual

theorem chars : (t : Tree) → ControlFree t.chars
  | .null => of_all rfl
  | .bool true => of_all rfl
  | .bool false => of_all rfl
  | .int n => of_numberText (.toString n)
  | .single x => floatText _ x
  | .double x => floatText _ x
  | .string s => stringText s
  | .array items => cons (by decide) (append (itemChars items) (cons (by decide) nil))
  | .object members => cons (by decide) (append (memberChars members) (cons (by decide) nil))

theorem itemChars : (ts : List Tree) → ControlFree (Json.itemChars ts)
  | [] => nil
  | [t] => chars t
  | t :: u :: rest => append (chars t) (cons (by decide) (itemChars (u :: rest)))

theorem memberChars : (ms : List (String × Tree)) → ControlFree (Json.memberChars ms)
  | [] => nil
  | [(key, t)] => append (stringText key) (cons (by decide) (chars t))
  | (key, t) :: m :: rest =>
    append (append (stringText key) (cons (by decide) (chars t)))
      (cons (by decide) (memberChars (m :: rest)))

end

end ControlFree

/-- A byte of a character is its code point, unless it lies beyond the characters of one byte. -/
theorem toNat_of_mem_utf8EncodeChar {c : Char} {b : UInt8} (hb : b ∈ String.utf8EncodeChar c) :
    b.toNat = c.val.toNat ∨ 128 ≤ b.toNat := by
  have hv : c.val.toNat < 1114112 := by
    rcases c.valid with hlow | ⟨-, hhigh⟩
    · exact Nat.lt_trans hlow (by decide)
    · exact hhigh
  unfold String.utf8EncodeChar at hb
  simp only at hb
  split_ifs at hb <;> simp only [List.mem_cons, List.not_mem_nil, or_false] at hb
  · rw [hb, UInt8.toNat_ofNat']
    omega
  · rcases hb with rfl | rfl <;> rw [UInt8.toNat_ofNat'] <;> omega
  · rcases hb with rfl | rfl | rfl <;> rw [UInt8.toNat_ofNat'] <;> omega
  · rcases hb with rfl | rfl | rfl | rfl <;> rw [UInt8.toNat_ofNat'] <;> omega

theorem Text.encodeUtf8_ofList (s : List Char) :
    encodeUtf8 (String.ofList s) = s.flatMap String.utf8EncodeChar := by
  rw [encodeUtf8, String.toUTF8_eq_toByteArray, String.toByteArray_ofList, List.utf8Encode,
    List.toList_data_toByteArray]

/-- The bytes of a text without control characters have none either. -/
theorem ControlFree.bytes {s : List Char} (hs : ControlFree s) :
    ∀ b ∈ Text.encodeUtf8 (String.ofList s), 32 ≤ b.toNat := by
  intro b hb
  rw [Text.encodeUtf8_ofList] at hb
  obtain ⟨c, hc, hb⟩ := List.mem_flatMap.1 hb
  have hblank : 32 ≤ c.val.toNat := hs c hc
  obtain h | h := toNat_of_mem_utf8EncodeChar hb
  · rw [h]
    exact hblank
  · exact Nat.le_trans (by decide) h

theorem bytes_render (t : Tree) : ∀ b ∈ Text.encodeUtf8 t.render, 32 ≤ b.toNat :=
  (ControlFree.chars t).bytes

namespace Boundary

/-- A rendered tree always crosses the boundary, and whole. -/
theorem writeOutput_render (t : Tree) :
    ∃ out, writeOutput t.render = (some out, .ok ()) ∧ out.bytes = Text.encodeUtf8 t.render := by
  have hn : 0 ∉ Text.encodeUtf8 t.render := fun h => absurd (bytes_render t 0 h) (by decide)
  exact ⟨⟨Text.encodeUtf8 t.render, hn⟩, by simp [writeOutput, CString.ofText?, hn], rfl⟩

end Boundary

end DecoderExport
