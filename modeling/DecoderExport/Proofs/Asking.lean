import DecoderExport.Proofs.Outcome

/-!
# Which handles a call asks

A call asks at most two handles, the one for hypotheses and then one of the two for translations,
and it stops asking where it fails. `Exporter.asked` lists them; a handle on the list is settled
afterwards, every other handle is as before (`handle_afterwards`).
-/

namespace DecoderExport

/-- What a handle of an exporter is for. -/
inductive Role where
  | hypothesis
  | narrow
  | extended
  deriving DecidableEq

/-- The role that a translation with or without source is built in. -/
def Role.translation (source : Option String) : Role :=
  if source.isSome then .extended else .narrow

namespace Exporter

def handle {γ κ : Type} (e : Exporter γ κ) : Role → Handle γ κ
  | .hypothesis => e.hypotheses.handle
  | .narrow => e.translations.narrow
  | .extended => e.translations.extended

/-- The roles whose handles a call asks, in order. -/
def asked (e : Exporter ClassDef Constructor) (o : DecoderOutput) (m : ObjectModel)
    (stamp : Nat) : List Role :=
  match (Alignment.encode o.alignment : Except (Fault Empty) Alignment) with
  | .error _ => []
  | .ok _ =>
    match e.nbest o m stamp with
    | .error _ => [.hypothesis]
    | .ok _ => [.hypothesis, .translation (e.sourceOf o)]

variable {e : Exporter ClassDef Constructor} {o : DecoderOutput} {m : ObjectModel} {stamp : Nat}

/-- Translations are served by the handle of one role; the other two handles are not touched. -/
theorem handle_settled (hypotheses : HypothesisBuilder ClassDef Constructor)
    (source : Option String) (m : ObjectModel) (role : Role) :
    Exporter.handle { e with hypotheses, translations := e.translations.settled source m } role =
      if role = .hypothesis then hypotheses.handle
      else if role = .translation source then (e.handle role).settled m
      else e.handle role := by
  cases source <;> cases role <;> rfl

theorem handle_afterwards (role : Role) :
    (e.afterwards o m stamp).handle role =
      if role ∈ e.asked o m stamp then (e.handle role).settled m else e.handle role := by
  unfold afterwards asked
  cases (Alignment.encode o.alignment : Except (Fault Empty) Alignment) with
  | error f => rfl
  | ok alignment =>
    cases e.nbest o m stamp with
    | error f => cases role <;> rfl
    | ok nbest =>
      simp only [handle_settled, List.mem_cons, List.not_mem_nil, or_false]
      by_cases hh : role = .hypothesis
      · subst hh
        rfl
      · simp only [hh, if_false, false_or]

/-- A handle that has found its constructor is left alone. -/
theorem handle_afterwards_of_resolved {role : Role} (h : (e.handle role).isResolved = true) :
    (e.afterwards o m stamp).handle role = e.handle role := by
  obtain ⟨found, hfound⟩ := Option.isSome_iff_exists.1 h
  rw [handle_afterwards, Handle.settled_of_resolved hfound, ite_self]

/-- The source decides between the two handles for translations. -/
theorem handle_afterwards_of_ne {role : Role} (hh : role ≠ .hypothesis)
    (hs : role ≠ .translation (e.sourceOf o)) :
    (e.afterwards o m stamp).handle role = e.handle role := by
  rw [handle_afterwards, if_neg]
  unfold asked
  split
  · simp
  · split <;> simp [hh, hs]

end Exporter

end DecoderExport
