import DecoderExport.Config
import Mathlib.Data.List.TakeWhile

/-!
# Which texts are flags

A flag is one of a few words in any letter case, with any blanks around it. Blanks are those of
Unicode, but only ASCII letters have two cases.
-/

namespace DecoderExport

namespace Text

/-- Trimming takes blanks off both ends. -/
theorem trim_spec (s : List Char) : ∃ before after, s = before ++ trim s ++ after ∧
    (∀ c ∈ before, isBlank c = true) ∧ ∀ c ∈ after, isBlank c = true := by
  have hleft : s.takeWhile isBlank ++ s.dropWhile isBlank = s := List.takeWhile_append_dropWhile
  generalize htail : s.dropWhile isBlank = tail at hleft
  refine ⟨s.takeWhile isBlank, (tail.reverse.takeWhile isBlank).reverse, ?_, ?_, ?_⟩
  · rw [trim, htail, List.append_assoc, ← List.reverse_append, List.takeWhile_append_dropWhile,
      List.reverse_reverse]
    exact hleft.symm
  · exact fun c hc => List.mem_takeWhile_imp hc
  · exact fun c hc => List.mem_takeWhile_imp (List.mem_reverse.1 hc)

/-- A text without blanks is what is left when blanks have been put around it. -/
theorem trim_eq {before word after : List Char} (hbefore : ∀ c ∈ before, isBlank c = true)
    (hword : ∀ c ∈ word, isBlank c = false) (hafter : ∀ c ∈ after, isBlank c = true) :
    trim (before ++ word ++ after) = word := by
  rw [trim, List.append_assoc, List.dropWhile_append_of_pos hbefore]
  cases word with
  | nil =>
    rw [List.nil_append, List.dropWhile_eq_nil_iff.2 hafter]
    rfl
  | cons c word =>
    have hfirst : isBlank c = false := hword c List.mem_cons_self
    have hlast : (c :: word).reverse.dropWhile isBlank = (c :: word).reverse := by
      rw [List.dropWhile_eq_self_iff]
      intro hl
      rw [hword _ (List.mem_reverse.1 (List.getElem_mem hl))]
      decide
    rw [List.cons_append, List.dropWhile_cons_of_neg (by simp [hfirst]), ← List.cons_append,
      List.reverse_append, List.dropWhile_append_of_pos (by simpa using hafter), hlast,
      List.reverse_reverse]

theorem isBlank_letter {c : Char} (h : 65 ≤ c.toNat) (h' : c.toNat ≤ 122) : isBlank c = false := by
  simp only [isBlank, blanks, CharSet.holds, List.any_cons, List.any_nil, Bool.or_false,
    Bool.or_eq_false_iff, Bool.and_eq_false_iff, decide_eq_false_iff_not]
  omega

/-- No blank is a letter, so a character is blank in either case. -/
theorem isBlank_toLower (c : Char) : isBlank c.toLower = isBlank c := by
  unfold Char.toLower
  split
  · rename_i h
    have hupper : 65 ≤ c.toNat ∧ c.toNat ≤ 90 := h
    have hlower : (c.val + ('a'.val - 'A'.val)).toNat = c.toNat + 32 := by
      rw [UInt32.toNat_add, Nat.mod_eq_of_lt]
      · rfl
      · show c.toNat + 32 < 2 ^ 32
        omega
    rw [isBlank_letter hupper.1 (by omega)]
    apply isBlank_letter
    · show 65 ≤ (c.val + ('a'.val - 'A'.val)).toNat
      omega
    · show (c.val + ('a'.val - 'A'.val)).toNat ≤ 122
      omega
  · rfl

end Text

/-- The words for a truth value. -/
def flagWords : Bool → List String
  | true => ["1", "true", "yes", "on"]
  | false => ["0", "false", "no", "off"]

/-- A text spells a truth value: one of its words in any letter case, with blanks around it. -/
def SpellsFlag (raw : String) (b : Bool) : Prop :=
  ∃ before word after : List Char, raw.toList = before ++ word ++ after ∧
    (∀ c ∈ before, Text.isBlank c = true) ∧ (∀ c ∈ after, Text.isBlank c = true) ∧
    String.ofList (word.map Char.toLower) ∈ flagWords b

theorem not_blank_of_flagWords {b : Bool} {word : String} (h : word ∈ flagWords b) :
    ∀ c ∈ word.toList, Text.isBlank c = false := by
  have hall : ∀ b, ((flagWords b).all fun w => w.toList.all (!Text.isBlank ·)) = true := by decide
  simpa using List.all_eq_true.1 (List.all_eq_true.1 (hall b) word h)

theorem parseFlag?_eq_iff {raw : String} {b : Bool} :
    parseFlag? raw = some b ↔
      String.ofList ((Text.trim raw.toList).map Char.toLower) ∈ flagWords b := by
  show (if _ ∈ flagWords true then some true else if _ ∈ flagWords false then some false else none) =
    some b ↔ _
  generalize String.ofList ((Text.trim raw.toList).map Char.toLower) = word
  have hapart : ∀ w ∈ flagWords true, w ∉ flagWords false := by decide
  by_cases ht : word ∈ flagWords true
  · cases b <;> simp [ht, hapart word ht]
  · by_cases hf : word ∈ flagWords false
    · cases b <;> simp [ht, hf]
    · cases b <;> simp [ht, hf]

/-- The flags are the texts that spell a truth value. -/
theorem parseFlag?_eq_some {raw : String} {b : Bool} :
    parseFlag? raw = some b ↔ SpellsFlag raw b := by
  rw [parseFlag?_eq_iff]
  constructor
  · intro h
    obtain ⟨before, after, hraw, hbefore, hafter⟩ := Text.trim_spec raw.toList
    exact ⟨before, _, after, hraw, hbefore, hafter, h⟩
  · rintro ⟨before, word, after, hraw, hbefore, hafter, h⟩
    have hword : ∀ c ∈ word, Text.isBlank c = false := by
      intro c hc
      rw [← Text.isBlank_toLower]
      apply not_blank_of_flagWords h
      rw [String.toList_ofList]
      exact List.mem_map_of_mem hc
    rwa [hraw, Text.trim_eq hbefore hword hafter]

theorem parseFlag?_eq_none {raw : String} :
    parseFlag? raw = none ↔ ∀ b, ¬ SpellsFlag raw b := by
  rw [Option.eq_none_iff_forall_ne_some]
  exact forall_congr' fun b => not_congr parseFlag?_eq_some

end DecoderExport
