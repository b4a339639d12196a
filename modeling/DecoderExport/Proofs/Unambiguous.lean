import DecoderExport.Proofs.Rendering

/-!
# Rendering is unambiguous

Two trees with the same text are alike: strings are equal, arrays and objects agree part by part,
and only trees without parts may differ, as long as their texts do not. The induction is over the
first tree and covers texts in which more follows, so that the boundaries between the parts are
found as well.
-/

namespace DecoderExport.Json

/-- The character that begins a tree other than a word or a number. -/
def Tree.mark : Tree → Option Char
  | .string _ => some '"'
  | .array _ => some '['
  | .object _ => some '\x7b'
  | _ => none

/-- Two trees that differ at most in how their words and numbers came about. -/
inductive Tree.Alike : Tree → Tree → Prop
  | scalar {t u : Tree} (ht : t.mark = none) (hu : u.mark = none) (h : t.chars = u.chars) :
      Alike t u
  | string (s : String) : Alike (.string s) (.string s)
  | array {ts us : List Tree} (h : List.Forall₂ Alike ts us) : Alike (.array ts) (.array us)
  | object {ms ns : List (String × Tree)} (hkeys : ms.map Prod.fst = ns.map Prod.fst)
      (h : List.Forall₂ Alike (ms.map Prod.snd) (ns.map Prod.snd)) : Alike (.object ms) (.object ns)

/-- The characters of words and numbers. -/
def isPlain (c : Char) : Bool := !(['"', '[', ']', '\x7b', '\x7d', ','].contains c)

/-- The text ends, or goes on with what may follow a value. -/
def Ends (t : List Char) : Prop := ∀ c r, t = c :: r → c ∈ [',', ']', '\x7d']

theorem ends_cons {c : Char} (hc : c ∈ [',', ']', '\x7d']) (r : List Char) : Ends (c :: r) := by
  rintro c' r' ⟨⟩
  exact hc

theorem ends_nil : Ends [] := nofun

theorem Ends.not_plain {t : List Char} (h : Ends t) (c : Char) (r : List Char) (ht : t = c :: r) :
    isPlain c = false := by
  have hall : [',', ']', '\x7d'].all (!isPlain ·) = true := by decide
  simpa using List.all_eq_true.1 hall c (h c r ht)

/-- Whether a text can stand for a word or a number. -/
structure PlainText (s : List Char) : Prop where
  nonempty : s ≠ []
  plain : ∀ c ∈ s, isPlain c = true

theorem PlainText.of_all {s : List Char} (hne : s ≠ []) (h : s.all isPlain = true) : PlainText s :=
  ⟨hne, List.all_eq_true.1 h⟩

theorem PlainText.of_numberText {s : List Char} (hne : s ≠ []) (h : NumberText s) :
    PlainText s := by
  have hall : ['"', '[', ']', '\x7b', '\x7d', ','].all (!isNumberChar ·) = true := by decide
  refine ⟨hne, ?_⟩
  intro c hc
  rw [isPlain, Bool.not_eq_true', ← Bool.not_eq_true, List.contains_iff_mem]
  intro hmem
  have hchar := List.all_eq_true.1 hall c hmem
  rw [h c hc] at hchar
  cases hchar

theorem place_ne_nil (l : Number.Layout) (d : Number.Decimal) : l.place d ≠ [] := by
  have hd : Number.decimalDigits d.digits ≠ [] := Nat.toDigits_ne_nil
  simp only [Number.Layout.place]
  split
  · simp [hd]
  · split <;> simp

theorem PlainText.floatText {f : Number.Format} (style : Number.Style) (x : Number.Binary f) :
    PlainText (Json.floatText style x) := by
  have hne : style.text x ≠ [] := by
    unfold Number.Style.text Number.Layout.render
    simp only [ne_eq, List.append_eq_nil_iff, not_and]
    intro _
    split
    · simp
    · split
      · exact place_ne_nil _ _
      · split
        · exact place_ne_nil _ _
        · simp [Number.Layout.scale]
  unfold Json.floatText
  split
  · exact .of_numberText hne (.text style x)
  · exact .of_all (by simp) (by decide)

theorem PlainText.toString (n : Int) : PlainText (ToString.toString n).toList := by
  apply of_numberText _ (.toString n)
  have hdigits (m : Nat) : Number.decimalDigits m ≠ [] := Nat.toDigits_ne_nil
  cases n with
  | ofNat m =>
    change (Nat.repr m).toList ≠ []
    rw [toList_repr]
    exact hdigits m
  | negSucc m =>
    change ("-" ++ Nat.repr (m + 1)).toList ≠ []
    rw [String.toList_append]
    simp

/-- Words and numbers have none of the characters that separate the parts of a text. -/
theorem Tree.plainText_chars {t : Tree} (h : t.mark = none) : PlainText t.chars := by
  cases t with
  | null => rw [chars]; exact .of_all (by simp) (by decide)
  | bool b => cases b <;> rw [chars] <;> exact .of_all (by simp) (by decide)
  | int n => rw [chars]; exact .toString n
  | single x => rw [chars]; exact .floatText _ x
  | double x => rw [chars]; exact .floatText _ x
  | string s => cases h
  | array items => cases h
  | object members => cases h

/-- A tree begins with its mark, or with a character of words and numbers. -/
theorem Tree.chars_head (t : Tree) :
    ∃ c r, t.chars = c :: r ∧ (t.mark = some c ∨ t.mark = none ∧ isPlain c = true) := by
  cases hm : t.mark with
  | none =>
    have hplain := Tree.plainText_chars hm
    obtain ⟨c, r, hcr⟩ := List.exists_cons_of_ne_nil hplain.nonempty
    exact ⟨c, r, hcr, .inr ⟨rfl, hplain.plain c (by simp [hcr])⟩⟩
  | some c =>
    cases t with
    | string s => cases hm; exact ⟨_, _, by rw [Tree.chars, stringText], .inl rfl⟩
    | array items => cases hm; exact ⟨_, _, by rw [Tree.chars], .inl rfl⟩
    | object members => cases hm; exact ⟨_, _, by rw [Tree.chars], .inl rfl⟩
    | _ => cases hm

theorem Tree.mark_not_plain {t : Tree} {c : Char} (h : t.mark = some c) : isPlain c = false := by
  cases t <;> cases h <;> decide

/-- Texts that begin alike have the same mark. -/
theorem Tree.mark_eq {t u : Tree} {r r' : List Char} (h : t.chars ++ r = u.chars ++ r') :
    t.mark = u.mark := by
  obtain ⟨c, s, hs, ht⟩ := t.chars_head
  obtain ⟨d, s', hs', hu⟩ := u.chars_head
  rw [hs, hs'] at h
  obtain ⟨rfl, -⟩ := List.cons.inj h
  obtain ht | ⟨ht, hplain⟩ := ht
  · obtain hu | ⟨hu, hplain⟩ := hu
    · rw [ht, hu]
    · rw [Tree.mark_not_plain ht] at hplain
      cases hplain
  · obtain hu | ⟨hu, -⟩ := hu
    · rw [Tree.mark_not_plain hu] at hplain
      cases hplain
    · rw [ht, hu]

/-- No tree begins like the end of an array. -/
theorem Tree.chars_ne_closer (t : Tree) (r r' : List Char) : ']' :: r ≠ t.chars ++ r' := by
  intro h
  obtain ⟨c, s, hs, ht⟩ := t.chars_head
  rw [hs] at h
  obtain ⟨rfl, -⟩ := List.cons.inj h
  obtain ht | ⟨-, hplain⟩ := ht
  · cases t <;> cases ht
  · exact absurd hplain (by decide)

/-! ### Texts determine trees -/

theorem stringText_unique {a b : String} {r r' : List Char}
    (h : stringText a ++ r = stringText b ++ r') : a = b ∧ r = r' := by
  obtain ⟨s, hs, ha⟩ := text_stringText a r
  obtain ⟨s', hs', hb⟩ := text_stringText b r'
  have hread := readString_quoted ha
  rw [hs, hs'] at h
  obtain ⟨-, rfl⟩ := List.cons.inj h
  rw [readString_quoted hb] at hread
  cases hread
  exact ⟨rfl, rfl⟩

theorem plainText_unique {w w' r r' : List Char} (hw : PlainText w) (hw' : PlainText w')
    (hr : Ends r) (hr' : Ends r') (h : w ++ r = w' ++ r') :
    w = w' ∧ r = r' := by
  have htake := takeWhile_append_stop hw.plain hr.not_plain
  rw [h, takeWhile_append_stop hw'.plain hr'.not_plain] at htake
  subst htake
  exact ⟨rfl, List.append_cancel_left h⟩

/-- The text of items behind the first one. -/
def moreItems (items : List Tree) : List Char := (items.map Tree.chars).flatMap (',' :: ·)

/-- The text of members behind the first one. -/
def moreMembers (members : List (String × Tree)) : List Char :=
  (members.map memberText).flatMap (',' :: ·)

theorem ends_moreItems (items : List Tree) (r : List Char) :
    Ends (moreItems items ++ ']' :: r) := by
  cases items with
  | nil => exact ends_cons (by decide) r
  | cons t items => exact ends_cons (by decide) _

theorem ends_moreMembers (members : List (String × Tree)) (r : List Char) :
    Ends (moreMembers members ++ '\x7d' :: r) := by
  cases members with
  | nil => exact ends_cons (by decide) r
  | cons m members => exact ends_cons (by decide) _

theorem array_chars (items : List Tree) (r : List Char) :
    (Tree.array items).chars ++ r = '[' :: match items with
      | [] => ']' :: r
      | t :: rest => t.chars ++ (moreItems rest ++ ']' :: r) := by
  rw [Tree.chars, itemChars_eq]
  cases items with
  | nil => rfl
  | cons t rest => simp [joined, moreItems]

theorem object_chars (members : List (String × Tree)) (r : List Char) :
    (Tree.object members).chars ++ r = '\x7b' :: match members with
      | [] => '\x7d' :: r
      | m :: rest => memberText m ++ (moreMembers rest ++ '\x7d' :: r) := by
  rw [Tree.chars, memberChars_eq]
  cases members with
  | nil => rfl
  | cons m rest => simp [joined, moreMembers]

theorem scalar_unique {t u : Tree} {r r' : List Char} (ht : t.mark = none) (hr : Ends r)
    (hr' : Ends r') (h : t.chars ++ r = u.chars ++ r') : t.Alike u ∧ r = r' := by
  have hu : u.mark = none := (Tree.mark_eq h).symm.trans ht
  obtain ⟨hchars, hrest⟩ :=
    plainText_unique (Tree.plainText_chars ht) (Tree.plainText_chars hu) hr hr' h
  exact ⟨.scalar ht hu hchars, hrest⟩

theorem memberText_split {key key' : String} {t u : Tree} {r r' : List Char}
    (h : memberText (key, t) ++ r = memberText (key', u) ++ r') :
    key = key' ∧ t.chars ++ r = u.chars ++ r' := by
  rw [memberText_append, memberText_append] at h
  obtain ⟨hkey, hrest⟩ := stringText_unique h
  exact ⟨hkey, (List.cons.inj hrest).2⟩

mutual

/-- A tree is found again, up to its words and numbers, from its text with anything behind it. -/
theorem Tree.chars_unique : (t : Tree) → ∀ {u : Tree} {r r' : List Char}, Ends r → Ends r' →
    t.chars ++ r = u.chars ++ r' → t.Alike u ∧ r = r'
  | .null, _, _, _, hr, hr', h => scalar_unique rfl hr hr' h
  | .bool _, _, _, _, hr, hr', h => scalar_unique rfl hr hr' h
  | .int _, _, _, _, hr, hr', h => scalar_unique rfl hr hr' h
  | .single _, _, _, _, hr, hr', h => scalar_unique rfl hr hr' h
  | .double _, _, _, _, hr, hr', h => scalar_unique rfl hr hr' h
  | .string a, u, r, r', _, _, h => by
    have hmark := Tree.mark_eq h
    cases u with
    | string b =>
      rw [Tree.chars, Tree.chars] at h
      obtain ⟨rfl, hrest⟩ := stringText_unique h
      exact ⟨.string a, hrest⟩
    | _ => cases hmark
  | .array ts, u, r, r', _, _, h => by
    -- The first items decide whether both arrays are empty; behind them the texts are cut at
    -- commas.
    have hmark := Tree.mark_eq h
    cases u with
    | array us =>
      rw [array_chars, array_chars] at h
      have h := (List.cons.inj h).2
      match ts, us, h with
      | [], [], h => exact ⟨.array .nil, (List.cons.inj h).2⟩
      | [], u :: us, h => exact absurd h (u.chars_ne_closer _ _)
      | t :: ts, [], h => exact absurd h.symm (t.chars_ne_closer _ _)
      | t :: ts, u :: us, h =>
        obtain ⟨halike, hrest⟩ := t.chars_unique (ends_moreItems ts r) (ends_moreItems us r') h
        obtain ⟨hall, hr⟩ := moreItems_unique ts hrest
        exact ⟨.array (.cons halike hall), hr⟩
    | _ => cases hmark
  | .object ms, u, r, r', _, _, h => by
    have hmark := Tree.mark_eq h
    cases u with
    | object ns =>
      rw [object_chars, object_chars] at h
      have h := (List.cons.inj h).2
      match ms, ns, h with
      | [], [], h => exact ⟨.object rfl .nil, (List.cons.inj h).2⟩
      | [], n :: ns, h => exact absurd (List.cons.inj h).1 (by decide)
      | m :: ms, [], h => exact absurd (List.cons.inj h).1 (by decide)
      | (key, t) :: ms, (key', u) :: ns, h =>
        obtain ⟨rfl, hvalue⟩ := memberText_split h
        obtain ⟨halike, hrest⟩ :=
          t.chars_unique (ends_moreMembers ms r) (ends_moreMembers ns r') hvalue
        obtain ⟨hkeys, hall, hr⟩ := moreMembers_unique ms hrest
        exact ⟨.object (by simp [hkeys]) (.cons halike hall), hr⟩
    | _ => cases hmark

theorem moreItems_unique : (ts : List Tree) → ∀ {us : List Tree} {r r' : List Char},
    moreItems ts ++ ']' :: r = moreItems us ++ ']' :: r' → List.Forall₂ Tree.Alike ts us ∧ r = r'
  | [], us, r, r', h => by
    cases us with
    | nil => exact ⟨.nil, (List.cons.inj h).2⟩
    | cons u us => exact absurd (List.cons.inj h).1 (by decide)
  | t :: ts, us, r, r', h => by
    cases us with
    | nil => exact absurd (List.cons.inj h).1 (by decide)
    | cons u us =>
      have htail :
          t.chars ++ (moreItems ts ++ ']' :: r) = u.chars ++ (moreItems us ++ ']' :: r') := by
        simpa [moreItems] using h
      obtain ⟨halike, hrest⟩ := t.chars_unique (ends_moreItems ts r) (ends_moreItems us r') htail
      obtain ⟨hall, hr⟩ := moreItems_unique ts hrest
      exact ⟨.cons halike hall, hr⟩

theorem moreMembers_unique : (ms : List (String × Tree)) →
    ∀ {ns : List (String × Tree)} {r r' : List Char},
    moreMembers ms ++ '\x7d' :: r = moreMembers ns ++ '\x7d' :: r' →
      ms.map Prod.fst = ns.map Prod.fst ∧
        List.Forall₂ Tree.Alike (ms.map Prod.snd) (ns.map Prod.snd) ∧ r = r'
  | [], ns, r, r', h => by
    cases ns with
    | nil => exact ⟨rfl, .nil, (List.cons.inj h).2⟩
    | cons n ns => exact absurd (List.cons.inj h).1 (by decide)
  | (key, t) :: ms, ns, r, r', h => by
    cases ns with
    | nil => exact absurd (List.cons.inj h).1 (by decide)
    | cons n ns =>
      obtain ⟨key', u⟩ := n
      have htail : memberText (key, t) ++ (moreMembers ms ++ '\x7d' :: r) =
          memberText (key', u) ++ (moreMembers ns ++ '\x7d' :: r') := by
        simpa [moreMembers] using h
      obtain ⟨rfl, hvalue⟩ := memberText_split htail
      obtain ⟨halike, hrest⟩ :=
        t.chars_unique (ends_moreMembers ms r) (ends_moreMembers ns r') hvalue
      obtain ⟨hkeys, hall, hr⟩ := moreMembers_unique ms hrest
      exact ⟨by simp [hkeys], .cons halike hall, hr⟩

end

/-- Trees with the same text are alike. -/
theorem Tree.alike_of_render_eq {t u : Tree} (h : t.render = u.render) : t.Alike u := by
  have hchars : t.chars = u.chars := String.ofList_injective h
  exact (t.chars_unique ends_nil ends_nil (congrArg (· ++ []) hchars)).1

end DecoderExport.Json
