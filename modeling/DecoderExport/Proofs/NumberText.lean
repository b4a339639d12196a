import DecoderExport.Json.Tree

/-!
# The characters of numbers

Numbers of every kind and layout are written with digits, a point, signs and the letter of an
exponent. So their text has none of the characters that separate the parts of a JSON text.
-/

namespace DecoderExport

open DecoderExport.Number (Binary Decimal Format Layout Style decimalDigits)

theorem toList_repr (n : Nat) : (Nat.repr n).toList = decimalDigits n := by
  rw [Nat.repr, String.toList_ofList]
  rfl

/-- The characters of numbers. -/
def isNumberChar (c : Char) : Bool := c.isDigit || c = '.' || c = 'e' || c = '+' || c = '-'

/-- Whether a text has the characters of numbers only. -/
def NumberText (s : List Char) : Prop := ∀ c ∈ s, isNumberChar c = true

namespace NumberText

theorem append {s t : List Char} (hs : NumberText s) (ht : NumberText t) : NumberText (s ++ t) :=
  List.forall_mem_append.2 ⟨hs, ht⟩

theorem cons {c : Char} {s : List Char} (hc : isNumberChar c = true) (hs : NumberText s) :
    NumberText (c :: s) :=
  List.forall_mem_cons.2 ⟨hc, hs⟩

theorem digits (n : Nat) : NumberText (decimalDigits n) := by
  intro c hc
  have hdigit : c.isDigit = true := Nat.isDigit_of_mem_toDigits (by decide) (by decide) hc
  simp [isNumberChar, hdigit]

theorem zeros (n : Nat) : NumberText (List.replicate n '0') := by
  intro c hc
  rw [List.eq_of_mem_replicate hc]
  decide

theorem place (l : Layout) (d : Decimal) : NumberText (l.place d) := by
  have hd := digits d.digits
  have htake (n : Nat) : NumberText ((decimalDigits d.digits).take n) :=
    fun c hc => hd c (List.mem_of_mem_take hc)
  have hdrop (n : Nat) : NumberText ((decimalDigits d.digits).drop n) :=
    fun c hc => hd c (List.mem_of_mem_drop hc)
  simp only [Layout.place]
  split
  · refine append (append hd (zeros _)) ?_
    split
    · exact cons (by decide) (cons (by decide) nofun)
    · exact nofun
  · split
    · exact append (htake _) (cons (by decide) (hdrop _))
    · exact cons (by decide) (cons (by decide) (append (zeros _) hd))

theorem scale (l : Layout) (d : Decimal) : NumberText (l.scale d) := by
  have hd := digits d.digits
  simp only [Layout.scale]
  refine append (append (fun c hc => hd c (List.mem_of_mem_take hc)) ?_)
    (cons (by decide) (cons ?_ (append (zeros _) (digits _))))
  · split
    · exact nofun
    · exact cons (by decide) fun c hc => hd c (List.mem_of_mem_drop hc)
  · split <;> decide

theorem render (l : Layout) (d : Decimal) : NumberText (l.render d) := by
  unfold Layout.render
  simp only
  split
  · exact place l d
  · split
    · exact place l d
    · exact scale l d

theorem text {f : Format} (style : Style) (x : Binary f) : NumberText (style.text x) := by
  unfold Style.text
  refine append ?_ ?_
  · split
    · exact cons (by decide) nofun
    · exact nofun
  · split
    · refine cons (by decide) ?_
      split
      · exact cons (by decide) (cons (by decide) nofun)
      · exact nofun
    · exact render _ _

theorem toString (n : Int) : NumberText (ToString.toString n).toList := by
  cases n with
  | ofNat m =>
    change NumberText (Nat.repr m).toList
    rw [toList_repr]
    exact digits m
  | negSucc m =>
    change NumberText ("-" ++ Nat.repr (m + 1)).toList
    rw [String.toList_append, toList_repr]
    exact append (cons (by decide) nofun) (digits (m + 1))

end NumberText

end DecoderExport
