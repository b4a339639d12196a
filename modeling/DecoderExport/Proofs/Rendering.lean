import DecoderExport.Proofs.NumberText
import DecoderExport.Proofs.PrintedNumber
import DecoderExport.Proofs.RecordSpelling
import Mathlib.Data.List.Forall2

/-!
# What is written is a spelling

The compact text of a tree, with any text behind it, as one of the spellings that readers read.
Items and members are joined with commas, so that a list or an object is written as a spelling if
each of its items is.
-/

namespace DecoderExport.Json

/-- A member of an object as it is written. -/
def memberText (member : String × Tree) : List Char := stringText member.1 ++ ':' :: member.2.chars

/-- Texts with commas between them. -/
def joined : List (List Char) → List Char
  | [] => []
  | x :: xs => x ++ xs.flatMap (',' :: ·)

theorem itemChars_eq (items : List Tree) : itemChars items = joined (items.map Tree.chars) := by
  induction items with
  | nil => rfl
  | cons t rest ih =>
    cases rest with
    | nil => simp [itemChars, joined]
    | cons u rest => rw [itemChars, ih] <;> simp [joined]

theorem memberChars_eq (members : List (String × Tree)) :
    memberChars members = joined (members.map memberText) := by
  induction members with
  | nil => rfl
  | cons m rest ih =>
    cases rest with
    | nil => simp [memberChars, memberText, joined]
    | cons n rest => rw [memberChars, ih] <;> simp [memberText, joined]

/-- Whatever follows the text, it spells something up to what follows. -/
def Writes (x : List Char) (p : Spelling) : Prop := ∀ t, p (x ++ t) t

section

variable {frame : Frame} {xs : List (List Char)} {ps : List Spelling}

theorem items_flatMap (h : List.Forall₂ Writes xs ps) (t : List Char) :
    Items frame false ps (xs.flatMap (',' :: ·) ++ frame.closer :: t) t := by
  induction h with
  | nil => exact .close (.none _)
  | @cons x p xs ps hx _ ih =>
    rw [List.flatMap_cons, List.append_assoc]
    exact .item (.next (.none _) (.none _)) (hx _) ih

theorem items_joined (h : List.Forall₂ Writes xs ps) (t : List Char) :
    Items frame true ps (joined xs ++ frame.closer :: t) t := by
  cases h with
  | nil => exact .close (.none _)
  | cons hx h =>
    rw [joined, List.append_assoc]
    exact .item (.first (.none _)) (hx _) (items_flatMap h t)

theorem itemsUntil_flatMap {q : List Char → Prop} {y : List Char} (h : List.Forall₂ Writes xs ps)
    (hy : ∀ t, q (y ++ t)) (ys : List (List Char)) (t : List Char) :
    ItemsUntil q false ps ((xs ++ y :: ys).flatMap (',' :: ·) ++ t) := by
  induction h with
  | nil =>
    rw [List.nil_append, List.flatMap_cons, List.append_assoc]
    exact .here (.next (.none _) (.none _)) (hy _)
  | cons hx _ ih =>
    rw [List.cons_append, List.flatMap_cons, List.append_assoc]
    exact .item (.next (.none _) (.none _)) (hx _) ih

theorem itemsUntil_joined {q : List Char → Prop} {y : List Char} (h : List.Forall₂ Writes xs ps)
    (hy : ∀ t, q (y ++ t)) (ys : List (List Char)) (t : List Char) :
    ItemsUntil q true ps (joined (xs ++ y :: ys) ++ t) := by
  cases h with
  | nil =>
    rw [List.nil_append, joined, List.append_assoc]
    exact .here (.first (.none _)) (hy _)
  | cons hx h =>
    rw [List.cons_append, joined, List.append_assoc]
    exact .item (.first (.none _)) (hx _) (itemsUntil_flatMap h hy ys t)

end

section

variable {ps : List Spelling}

theorem array_writes {items : List Tree} (h : List.Forall₂ (fun i p => Writes i.chars p) items ps) :
    Writes (Tree.array items).chars (Enclosed .list ps) := by
  intro t
  refine ⟨joined (items.map Tree.chars) ++ Frame.closer .list :: t, ?_,
    items_joined (List.forall₂_map_left_iff.2 h) t⟩
  rw [Tree.chars, itemChars_eq, List.cons_append, List.append_assoc]
  rfl

theorem object_writes {members : List (String × Tree)}
    (h : List.Forall₂ (fun m p => Writes (memberText m) p) members ps) :
    Writes (Tree.object members).chars (Enclosed .object ps) := by
  intro t
  refine ⟨joined (members.map memberText) ++ Frame.closer .object :: t, ?_,
    items_joined (List.forall₂_map_left_iff.2 h) t⟩
  rw [Tree.chars, memberChars_eq, List.cons_append, List.append_assoc]
  rfl

theorem array_until {q : List Char → Prop} {before : List Tree} {item : Tree}
    (h : List.Forall₂ (fun i p => Writes i.chars p) before ps) (hq : ∀ t, q (item.chars ++ t))
    (after : List Tree) (t : List Char) :
    EnclosedUntil .list ps q ((Tree.array (before ++ item :: after)).chars ++ t) := by
  refine ⟨joined ((before ++ item :: after).map Tree.chars) ++ ']' :: t, ?_, ?_⟩
  · rw [Tree.chars, itemChars_eq, List.cons_append, List.append_assoc]
    rfl
  · rw [List.map_append, List.map_cons]
    exact itemsUntil_joined (List.forall₂_map_left_iff.2 h) hq _ _

theorem object_until {q : List Char → Prop} {before : List (String × Tree)} {member : String × Tree}
    (h : List.Forall₂ (fun m p => Writes (memberText m) p) before ps)
    (hq : ∀ t, q (memberText member ++ t)) (after : List (String × Tree)) (t : List Char) :
    EnclosedUntil .object ps q ((Tree.object (before ++ member :: after)).chars ++ t) := by
  refine ⟨joined ((before ++ member :: after).map memberText) ++ '\x7d' :: t, ?_, ?_⟩
  · rw [Tree.chars, memberChars_eq, List.cons_append, List.append_assoc]
    rfl
  · rw [List.map_append, List.map_cons]
    exact itemsUntil_joined (List.forall₂_map_left_iff.2 h) hq _ _

end

/-! ### Keys and scalars -/

theorem memberText_append (key : String) (tree : Tree) (t : List Char) :
    memberText (key, tree) ++ t = stringText key ++ ':' :: (tree.chars ++ t) := by
  rw [memberText, List.append_assoc, List.cons_append]

theorem key_writes (key : String) (tree : Tree) (t : List Char) :
    Key key (memberText (key, tree) ++ t) (tree.chars ++ t) := by
  rw [memberText_append]
  exact ⟨_, _, text_stringText key _, .none _, .none _⟩

theorem member_writes {α : Type} {fields : List (FieldSpelling α)} {a : α} {key : String}
    {field : FieldSpelling α} {tree : Tree} (hf : fields.find? (·.name = key) = some field)
    (h : Writes tree.chars (field.spelled a)) :
    Writes (memberText (key, tree)) (Member fields a key) := by
  intro t
  refine ⟨_, key_writes key tree t, ?_⟩
  rw [hf]
  exact h t

theorem string_writes (a : String) : Writes (Tree.string a).chars (Text a) := text_stringText a

theorem bool_writes (b : Bool) : Writes (Tree.bool b).chars (Truth b) := fun _ => rfl

theorem index_writes (n : UInt64) : Writes (Tree.int n.toNat).chars (Index n) := by
  intro t
  show (Nat.repr n.toNat).toList ++ t = _
  rw [toList_repr]

end DecoderExport.Json
