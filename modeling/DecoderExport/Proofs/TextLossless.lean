import DecoderExport.Proofs.DefaultClasses
import DecoderExport.Proofs.Session
import DecoderExport.Proofs.Unambiguous

/-!
# Nothing is lost in the text of an export

The JSON text of a translation determines the output that it was made for: the text, the pairs, the
candidates in their order, and the source where it is included. Of a score it determines what is
shown of it.
-/

namespace DecoderExport

open DecoderExport.Json (Tree)

/-- Two candidates that agree up to what is shown of their scores. -/
structure Candidate.ShownAlike (c c' : Candidate) : Prop where
  text : c.text = c'.text
  score : (Value.floatJson c.score).render = (Value.floatJson c'.score).render
  features : c.features = c'.features

/-- Two outputs that agree up to what is shown of scores, and in the source if it is shown. -/
structure DecoderOutput.ShownAlike (o o' : DecoderOutput) (includeSource : Bool) : Prop where
  text : o.text = o'.text
  source : includeSource = true → o.source = o'.source
  nbest : List.Forall₂ Candidate.ShownAlike o.nbest o'.nbest
  alignment : o.alignment = o'.alignment

namespace Json.Tree

theorem Alike.string_eq {a b : String} (h : Alike (.string a) (.string b)) : a = b := by
  cases h with
  | scalar ht => cases ht
  | string => rfl

theorem Alike.index_eq {m n : Nat} (h : Alike (.int m) (.int n)) : m = n := by
  have hdigits : Number.decimalDigits m = Number.decimalDigits n := by
    cases h with
    | scalar _ _ h => rw [← toList_repr, ← toList_repr]; exact h
  rw [← ofDigitChars_decimalDigits m, hdigits, ofDigitChars_decimalDigits n]

theorem Alike.array_all {ts us : List Tree} (h : Alike (.array ts) (.array us)) :
    List.Forall₂ Alike ts us := by
  cases h with
  | scalar ht => cases ht
  | array h => exact h

theorem Alike.object_all {ms ns : List (String × Tree)} (h : Alike (.object ms) (.object ns)) :
    List.Forall₂ Alike (ms.map Prod.snd) (ns.map Prod.snd) := by
  cases h with
  | scalar ht => cases ht
  | object _ h => exact h

/-- A string that may be absent is told apart from `null` and from other strings. -/
theorem Alike.nullable_eq {a b : Option String}
    (h : Alike (a.elim .null .string) (b.elim .null .string)) : a = b := by
  cases a with
  | none =>
    cases b with
    | none => rfl
    | some b => cases h with | scalar _ hu => cases hu
  | some a =>
    cases b with
    | none => cases h with | scalar ht => cases ht
    | some b => exact congrArg some h.string_eq

end Json.Tree

/-- What is shown of a float has no parts. -/
theorem Value.floatJson_leaf (x : Number.Single) :
    (∃ s, floatJson x = .string s) ∨ ∃ d, floatJson x = .double d := by
  unfold floatJson
  split
  · exact .inl ⟨_, rfl⟩
  · split
    · exact .inl ⟨_, rfl⟩
    · split
      · exact .inr ⟨_, rfl⟩
      · exact .inr ⟨_, rfl⟩

theorem Value.render_floatJson_eq {x y : Number.Single} (h : (floatJson x).Alike (floatJson y)) :
    (floatJson x).render = (floatJson y).render := by
  obtain ⟨s, hx⟩ | ⟨d, hx⟩ := floatJson_leaf x <;>
    obtain ⟨s', hy⟩ | ⟨d', hy⟩ := floatJson_leaf y <;>
    rw [hx, hy] at h ⊢
  · rw [h.string_eq]
  all_goals
    cases h with
    | scalar _ _ h => rw [Tree.render, Tree.render, h]

theorem Candidate.shownAlike {c c' : Candidate} (h : c.exported.Alike c'.exported) :
    c.ShownAlike c' := by
  have hall := h.object_all
  cases hall with
  | cons hfeatures hall =>
    cases hall with
    | cons htext hall =>
      cases hall with
      | cons hscore _ =>
        exact ⟨htext.string_eq, Value.render_floatJson_eq hscore, hfeatures.string_eq⟩

/-- Pairs are found again from their entries. -/
theorem AlignmentPair.eq_of_entries_alike {ps qs : List AlignmentPair}
    (h : List.Forall₂ Tree.Alike
      (ps.flatMap fun p => [.int p.source.toNat, .int p.target.toNat])
      (qs.flatMap fun p => [.int p.source.toNat, .int p.target.toNat])) : ps = qs := by
  induction ps generalizing qs with
  | nil =>
    cases qs with
    | nil => rfl
    | cons q qs => cases h
  | cons p ps ih =>
    cases qs with
    | nil => cases h
    | cons q qs =>
      rw [List.flatMap_cons, List.flatMap_cons] at h
      cases h with
      | cons hs h =>
        cases h with
        | cons ht h =>
          have hsource := UInt64.toNat_inj.1 hs.index_eq
          have htarget := UInt64.toNat_inj.1 ht.index_eq
          obtain ⟨source, target⟩ := p
          cases hsource
          cases htarget
          rw [ih h]

theorem DecoderOutput.shownAlike {o o' : DecoderOutput} {includeSource : Bool}
    (h : (o.exported includeSource).Alike (o'.exported includeSource)) :
    o.ShownAlike o' includeSource := by
  have hall := h.object_all
  cases hall with
  | cons halignment hall =>
    cases hall with
    | cons hhypotheses hall =>
      cases hall with
      | cons hsource hall =>
        cases hall with
        | cons htext _ =>
          refine ⟨htext.string_eq, ?_, ?_, ?_⟩
          · rintro rfl
            exact hsource.nullable_eq
          · have hnbest := hhypotheses.array_all
            rw [List.forall₂_map_left_iff, List.forall₂_map_right_iff] at hnbest
            exact hnbest.imp fun _ _ => Candidate.shownAlike
          · exact AlignmentPair.eq_of_entries_alike halignment.array_all

namespace Session

/-- Two outputs whose indices fit are exported with the default names, whatever was exported before,
and where the texts of the two translations are the same, the outputs agree in everything that is
shown. -/
theorem text_lossless (includeSource : Bool) (minted minted' : Nat)
    (history history' : List (Nat × DecoderOutput)) (model model' : Nat) (o o' : DecoderOutput)
    (ho : ∀ p ∈ o.alignment, p.source.toNat ≤ maxIndex ∧ p.target.toNat ≤ maxIndex)
    (ho' : ∀ p ∈ o'.alignment, p.source.toNat ≤ maxIndex ∧ p.target.toNat ≤ maxIndex) :
    let s := (start { includeSource } (fun _ => .withDefaultClasses) minted).run
      (history.map fun (model, o) => .marshal model o)
    let s' := (start { includeSource } (fun _ => .withDefaultClasses) minted').run
      (history'.map fun (model, o) => .marshal model o)
    ∃ v v', (s.call model o).1 = .ok v ∧ (s'.call model' o').1 = .ok v' ∧
      (v.toJson.render = v'.toJson.render → o.ShownAlike o' includeSource) := by
  intro s s'
  have hs : Uniform { includeSource } .withDefaultClasses s :=
    (uniform_start _ _ minted).run_marshals history
  have hs' : Uniform { includeSource } .withDefaultClasses s' :=
    (uniform_start _ _ minted').run_marshals history'
  rw [hs.fst_call, hs'.fst_call, Exporter.outcome_default hs.serves rfl rfl ho,
    Exporter.outcome_default hs'.serves rfl rfl ho']
  refine ⟨_, _, rfl, rfl, ?_⟩
  intro h
  rw [toJson_exported ho, toJson_exported ho'] at h
  exact DecoderOutput.shownAlike (Tree.alike_of_render_eq h)

/-- Without the source two outputs that differ in it only have the same text. -/
theorem text_lossless_but_source :
    let o : DecoderOutput :=
      ⟨"a", none, [⟨"b", .ofNat Number.single true 0, "c"⟩], [⟨0, 2147483647⟩]⟩
    let o' : DecoderOutput := { o with source := some "" }
    let s := start { includeSource := false } (fun _ => .withDefaultClasses) 0
    ∃ v v', (s.call 0 o).1 = .ok v ∧ (s.call 1 o').1 = .ok v' ∧
      v.toJson.render = v'.toJson.render ∧ o.ShownAlike o' false := by
  intro o o' s
  have ho : ∀ p ∈ o.alignment, p.source.toNat ≤ maxIndex ∧ p.target.toNat ≤ maxIndex := by decide
  have ho' : ∀ p ∈ o'.alignment, p.source.toNat ≤ maxIndex ∧ p.target.toNat ≤ maxIndex := ho
  have hs : Uniform { includeSource := false } .withDefaultClasses s := uniform_start _ _ 0
  obtain ⟨v, v', hv, hv', hshown⟩ := text_lossless false 0 0 [] [] 0 1 o o' ho ho'
  have hsame : v.toJson.render = v'.toJson.render := by
    change (s.call 0 o).1 = .ok v at hv
    change (s.call 1 o').1 = .ok v' at hv'
    rw [hs.fst_call, Exporter.outcome_default hs.serves rfl rfl ho] at hv
    rw [hs.fst_call, Exporter.outcome_default hs.serves rfl rfl ho'] at hv'
    rw [← Except.ok.inj hv, ← Except.ok.inj hv', toJson_exported ho, toJson_exported ho']
    rfl
  exact ⟨v, v', hv, hv', hsame, hshown hsame⟩

end Session

end DecoderExport
