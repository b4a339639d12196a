import DecoderExport.Config

/-!
# What the environment leaves of a configuration

Each field is taken from its variable where that is set. The outcome is refused for two reasons
only: a flag that is no truth value, and a class name that shows nothing. The second is judged after
the variables have been taken over, so a blank field is harmless when its variable is set.
-/

namespace DecoderExport

/-- The variable for the flag is set, but to no truth value. -/
def Environment.HasBadFlag (env : Environment) : Prop :=
  ∃ raw ∈ env.get? includeSourceVariable, parseFlag? raw = none

instance (env : Environment) : Decidable env.HasBadFlag :=
  inferInstanceAs (Decidable (∃ raw ∈ env.get? includeSourceVariable, parseFlag? raw = none))

namespace Config

/-- The configuration with the variables in place of its fields. -/
def merged (env : Environment) (c : Config) : Config where
  hypothesisClass := (env.get? hypothesisClassVariable).getD c.hypothesisClass
  translationClass := (env.get? translationClassVariable).getD c.translationClass
  includeSource := ((env.get? includeSourceVariable).bind parseFlag?).getD c.includeSource

/-- One of the class names shows nothing. -/
def HasBlankName (c : Config) : Prop :=
  Text.isAllBlank c.hypothesisClass.toList ∨ Text.isAllBlank c.translationClass.toList

instance (c : Config) : Decidable c.HasBlankName :=
  inferInstanceAs (Decidable (_ ∨ _))

variable {ρ : Type} {env : Environment} {c : Config}

theorem flagFrom_ok (h : ¬ env.HasBadFlag) (flag : Bool) :
    (flagFrom env flag : Except (Fault ρ) Bool) =
      .ok (((env.get? includeSourceVariable).bind parseFlag?).getD flag) := by
  unfold flagFrom
  cases hraw : env.get? includeSourceVariable with
  | none => rfl
  | some raw =>
    cases hb : parseFlag? raw with
    | none => exact absurd ⟨raw, hraw, hb⟩ h
    | some b => simp only [Option.bind_some, hb, Option.getD_some]

theorem flagFrom_error (h : env.HasBadFlag) (flag : Bool) :
    ∃ raw, (flagFrom env flag : Except (Fault ρ) Bool) =
      .error (.configuration (.badFlag raw)) := by
  obtain ⟨raw, hraw, hb⟩ := h
  refine ⟨raw, ?_⟩
  unfold flagFrom
  rw [Option.mem_def] at hraw
  simp only [hraw, hb]

theorem validate_ok (h : ¬ c.HasBlankName) : (c.validate : Except (Fault ρ) Unit) = .ok () := by
  obtain ⟨hh, ht⟩ := not_or.1 h
  rw [validate, if_neg hh, if_neg ht]

theorem validate_error (h : c.HasBlankName) :
    ∃ why, (c.validate : Except (Fault ρ) Unit) = .error (.configuration why) := by
  unfold validate
  by_cases hh : Text.isAllBlank c.hypothesisClass.toList
  · exact ⟨_, if_pos hh⟩
  · have ht := h.resolve_left hh
    rw [if_neg hh, if_pos ht]
    exact ⟨_, rfl⟩

/-- With an acceptable flag only the names are left to check. -/
theorem override_eq (h : ¬ env.HasBadFlag) :
    (c.override env : Except (Fault ρ) Config) =
      (c.merged env).validate.map fun _ => c.merged env := by
  unfold override
  rw [flagFrom_ok h]
  rfl

theorem override_ok (hf : ¬ env.HasBadFlag) (hb : ¬ (c.merged env).HasBlankName) :
    (c.override env : Except (Fault ρ) Config) = .ok (c.merged env) := by
  rw [override_eq hf, validate_ok hb]
  rfl

theorem override_error (h : env.HasBadFlag ∨ (c.merged env).HasBlankName) :
    ∃ why, (c.override env : Except (Fault ρ) Config) = .error (.configuration why) := by
  by_cases hf : env.HasBadFlag
  · obtain ⟨raw, hraw⟩ := flagFrom_error (ρ := ρ) hf c.includeSource
    refine ⟨.badFlag raw, ?_⟩
    unfold override
    rw [hraw]
    rfl
  · obtain ⟨why, hwhy⟩ := validate_error (ρ := ρ) (h.resolve_left hf)
    rw [override_eq hf, hwhy]
    exact ⟨why, rfl⟩

end Config

end DecoderExport
