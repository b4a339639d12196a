import DecoderExport.Proofs.ConfigSpelling
import DecoderExport.Proofs.Configuration
import DecoderExport.Proofs.FlagSpelling

/-!
# How a configuration is resolved

What is spelled goes before the defaults, and what the environment sets goes before both.
`Config.Overridden` lists what can come of it: first the flag is judged, then the two names that
result, in this order. A configuration that comes out passes the check, and the same environment
does not change it again.
-/

namespace DecoderExport

open DecoderExport.Json

/-- The bytes of a text are decoded to it, and no others are. -/
theorem Text.decodeUtf8?_eq_some {bytes : List UInt8} {s : String} :
    decodeUtf8? bytes = some s ↔ bytes = encodeUtf8 s := by
  unfold decodeUtf8? encodeUtf8 String.fromUTF8?
  constructor
  · intro h
    split at h
    · cases h
      rfl
    · cases h
  · rintro rfl
    rw [dif_pos (show ByteArray.IsValidUTF8 ⟨s.toUTF8.data.toList.toArray⟩ from s.isValidUTF8)]
    rfl

namespace Environment

variable {env : Environment} {name : String}

/-- A variable is set to a text. The bytes of a variable need not be a text. -/
def Sets (env : Environment) (name text : String) : Prop :=
  env.lookup name = some (Text.encodeUtf8 text)

theorem get?_eq_some {text : String} : env.get? name = some text ↔ env.Sets name text := by
  rw [get?, Option.bind_eq_some_iff, Sets]
  simp only [Text.decodeUtf8?_eq_some, exists_eq_right]

theorem get?_eq_none : env.get? name = none ↔ ∀ text, ¬ env.Sets name text := by
  rw [Option.eq_none_iff_forall_ne_some]
  exact forall_congr' fun text => not_congr get?_eq_some

/-- A value is spelled by a variable if that is set to a text, and a given one otherwise. -/
structure Takes {α : Type} (env : Environment) (name : String) (spells : String → α → Prop)
    (own value : α) : Prop where
  set : ∀ text, env.Sets name text → spells text value
  unset : (∀ text, ¬ env.Sets name text) → value = own

section

variable {α : Type} {spells : String → α → Prop} {own value : α}

theorem takes_iff :
    env.Takes name spells own value ↔ (env.get? name).elim (value = own) (spells · value) := by
  cases h : env.get? name with
  | none =>
    have hunset := get?_eq_none.1 h
    exact ⟨fun ht => ht.unset hunset, fun hv => ⟨fun _ hs => absurd hs (hunset _), fun _ => hv⟩⟩
  | some text =>
    have hset := get?_eq_some.1 h
    refine ⟨fun ht => ht.set text hset, fun hv => ⟨fun text' hset' => ?_, fun hu => ?_⟩⟩
    · rw [← get?_eq_some, h, Option.some.injEq] at hset'
      exact hset' ▸ hv
    · exact absurd hset (hu text)

/-- What has been taken from a variable is taken again. -/
theorem Takes.again (h : env.Takes name spells own value) : env.Takes name spells value value :=
  ⟨h.set, fun _ => rfl⟩

end

theorem takes_text_iff {own value : String} :
    env.Takes name Eq own value ↔ value = (env.get? name).getD own := by
  rw [takes_iff]
  cases env.get? name with
  | none => rfl
  | some text => exact eq_comm

theorem hasBadFlag_iff : env.HasBadFlag ↔
    ∃ raw, env.Sets includeSourceVariable raw ∧ ∀ b, ¬ SpellsFlag raw b := by
  simp only [HasBadFlag, Option.mem_def, get?_eq_some, parseFlag?_eq_none]

theorem takes_flag_iff {own value : Bool} :
    env.Takes includeSourceVariable SpellsFlag own value ↔
      ¬ env.HasBadFlag ∧ value = ((env.get? includeSourceVariable).bind parseFlag?).getD own := by
  rw [takes_iff, HasBadFlag]
  cases env.get? includeSourceVariable with
  | none => simp
  | some raw =>
    simp only [Option.elim_some, ← parseFlag?_eq_some, Option.mem_def, Option.some.injEq,
      exists_eq_left', Option.bind_some]
    cases parseFlag? raw <;> simp [eq_comm]

end Environment

/-- A name shows something. -/
def Shows (name : String) : Prop := ∃ c ∈ name.toList, Text.isBlank c = false

theorem isAllBlank_iff {name : String} : Text.isAllBlank name.toList = true ↔ ¬ Shows name := by
  simp [Text.isAllBlank, Shows]

namespace Config

variable {ρ : Type} {env : Environment} {c c' : Config}

/-- Each field is taken from its variable, or else from a given configuration. -/
structure Takes (env : Environment) (c c' : Config) : Prop where
  hypothesisClass :
    env.Takes hypothesisClassVariable Eq c.hypothesisClass c'.hypothesisClass
  translationClass :
    env.Takes translationClassVariable Eq c.translationClass c'.translationClass
  includeSource :
    env.Takes includeSourceVariable SpellsFlag c.includeSource c'.includeSource

theorem takes_iff : Takes env c c' ↔ ¬ env.HasBadFlag ∧ c' = c.merged env := by
  constructor
  · rintro ⟨hh, ht, hs⟩
    obtain ⟨hflag, hs⟩ := Environment.takes_flag_iff.1 hs
    refine ⟨hflag, ?_⟩
    cases c'
    rw [merged, ← Environment.takes_text_iff.1 hh, ← Environment.takes_text_iff.1 ht, ← hs]
  · rintro ⟨hflag, rfl⟩
    exact ⟨Environment.takes_text_iff.2 rfl, Environment.takes_text_iff.2 rfl,
      Environment.takes_flag_iff.2 ⟨hflag, rfl⟩⟩

theorem Takes.again (h : Takes env c c') : Takes env c' c' :=
  ⟨h.hypothesisClass.again, h.translationClass.again, h.includeSource.again⟩

/-- What comes of a configuration in an environment. -/
inductive Overridden (env : Environment) (c : Config) : Except (Fault ρ) Config → Prop
  | badFlag {raw : String} (hset : env.Sets includeSourceVariable raw)
      (hraw : ∀ b, ¬ SpellsFlag raw b) :
      Overridden env c (.error (.configuration (.badFlag raw)))
  | blankHypothesisClass {c' : Config} (h : Takes env c c') (hh : ¬ Shows c'.hypothesisClass) :
      Overridden env c (.error (.configuration .blankHypothesisClass))
  | blankTranslationClass {c' : Config} (h : Takes env c c') (hh : Shows c'.hypothesisClass)
      (ht : ¬ Shows c'.translationClass) :
      Overridden env c (.error (.configuration .blankTranslationClass))
  | ok {c' : Config} (h : Takes env c c') (hh : Shows c'.hypothesisClass)
      (ht : Shows c'.translationClass) : Overridden env c (.ok c')

theorem override_badFlag {raw : String} (hset : env.Sets includeSourceVariable raw)
    (hraw : ∀ b, ¬ SpellsFlag raw b) :
    (c.override env : Except (Fault ρ) Config) = .error (.configuration (.badFlag raw)) := by
  unfold override flagFrom
  rw [Environment.get?_eq_some.2 hset]
  simp only [parseFlag?_eq_none.2 hraw]
  rfl

/-- With the fields taken over only the names are left to check. -/
theorem Takes.override_eq (h : Takes env c c') :
    (c.override env : Except (Fault ρ) Config) = c'.validate.map fun _ => c' := by
  obtain ⟨hflag, rfl⟩ := takes_iff.1 h
  exact Config.override_eq hflag

theorem validate_of_shows (hh : Shows c.hypothesisClass) (ht : Shows c.translationClass) :
    (c.validate : Except (Fault ρ) Unit) = .ok () := by
  apply validate_ok
  rw [HasBlankName, isAllBlank_iff, isAllBlank_iff]
  tauto

theorem Overridden.override_eq {r : Except (Fault ρ) Config} (h : c.Overridden env r) :
    c.override env = r := by
  cases h with
  | badFlag hset hraw => exact override_badFlag hset hraw
  | blankHypothesisClass h hh =>
    rw [h.override_eq, validate, if_pos (isAllBlank_iff.2 hh)]
    rfl
  | blankTranslationClass h hh ht =>
    rw [h.override_eq, validate, if_neg (by rwa [isAllBlank_iff, not_not]),
      if_pos (isAllBlank_iff.2 ht)]
    rfl
  | ok h hh ht =>
    rw [h.override_eq, validate_of_shows hh ht]
    rfl

theorem overridden_override (env : Environment) (c : Config) :
    c.Overridden env (c.override env : Except (Fault ρ) Config) := by
  have hsome : ∃ r : Except (Fault ρ) Config, c.Overridden env r := by
    by_cases hflag : env.HasBadFlag
    · obtain ⟨raw, hset, hraw⟩ := Environment.hasBadFlag_iff.1 hflag
      exact ⟨_, .badFlag hset hraw⟩
    · have h : Takes env c (c.merged env) := takes_iff.2 ⟨hflag, rfl⟩
      by_cases hh : Shows (c.merged env).hypothesisClass
      · by_cases ht : Shows (c.merged env).translationClass
        · exact ⟨_, .ok h hh ht⟩
        · exact ⟨_, .blankTranslationClass h hh ht⟩
      · exact ⟨_, .blankHypothesisClass h hh⟩
  obtain ⟨r, hr⟩ := hsome
  rwa [hr.override_eq]

theorem overridden_iff {r : Except (Fault ρ) Config} :
    c.Overridden env r ↔ c.override env = r :=
  ⟨Overridden.override_eq, fun h => h ▸ overridden_override env c⟩

/-- The environment lets a configuration through if its flag is one, and both names show something
once they have been taken over. -/
theorem exists_override_ok_iff :
    (∃ c', (c.override env : Except (Fault ρ) Config) = .ok c') ↔
      (∀ raw, env.Sets includeSourceVariable raw → ∃ b, SpellsFlag raw b) ∧
      (∃ name, env.Takes hypothesisClassVariable Eq c.hypothesisClass name ∧ Shows name) ∧
      ∃ name, env.Takes translationClassVariable Eq c.translationClass name ∧ Shows name := by
  have hflag : ¬ env.HasBadFlag ↔
      ∀ raw, env.Sets includeSourceVariable raw → ∃ b, SpellsFlag raw b := by
    simp only [Environment.hasBadFlag_iff, not_exists, not_and, not_forall, not_not]
  simp only [Environment.takes_text_iff, exists_eq_left, ← hflag]
  constructor
  · rintro ⟨c', h⟩
    cases overridden_iff.2 h with
    | ok h hh ht =>
      obtain ⟨hflag, rfl⟩ := takes_iff.1 h
      exact ⟨hflag, hh, ht⟩
  · rintro ⟨hflag, hh, ht⟩
    exact ⟨_, overridden_iff.1 (.ok (takes_iff.2 ⟨hflag, rfl⟩) hh ht)⟩

/-- What is written for a configuration is read as it. An object with any of the fields is read as
what it spells and the defaults of the others. From there each field is taken from its variable
where that is set to a text. This fails for a flag that spells no truth value and for names that
show nothing, and what comes out is valid and stays as it is. -/
theorem resolution (c : Config) (env : Environment) :
    (ofJson c.toJson.render : Except (Fault ρ) Config) = .ok c ∧
    (∀ keys text, Distinct fields keys → Document (c.SpelledWith keys) text →
      (ofJson text : Except (Fault ρ) Config) = .ok (c.only keys)) ∧
    (∀ r : Except (Fault ρ) Config, c.override env = r ↔ c.Overridden env r) ∧
    ((∃ c', (c.override env : Except (Fault ρ) Config) = .ok c') ↔
      (∀ raw, env.Sets includeSourceVariable raw → ∃ b, SpellsFlag raw b) ∧
      (∃ name, env.Takes hypothesisClassVariable Eq c.hypothesisClass name ∧ Shows name) ∧
      ∃ name, env.Takes translationClassVariable Eq c.translationClass name ∧ Shows name) ∧
    ∀ c', (c.override env : Except (Fault ρ) Config) = .ok c' →
      (c'.validate : Except (Fault ρ) Unit) = .ok () ∧
        (c'.override env : Except (Fault ρ) Config) = .ok c' := by
  refine ⟨ofJson_render c, fun keys text hd h => c.ofJson_of_spelled hd h,
    fun _ => overridden_iff.symm, exists_override_ok_iff, ?_⟩
  intro c' h
  cases overridden_iff.2 h with
  | ok h hh ht => exact ⟨validate_of_shows hh ht, overridden_iff.1 (.ok h.again hh ht)⟩

/-- An environment whose flag is in mixed case with a blank, and whose translation class is no
text. -/
def mixedEnvironment : Environment := [
  (hypothesisClassVariable, Text.encodeUtf8 "h"),
  (translationClassVariable, [0xff]),
  (includeSourceVariable, Text.encodeUtf8 "\u3000oN")]

/-- A blank name that is spelled is repaired by the environment. -/
theorem resolution_of_blank_name :
    (ofJson "\x7b\"include_source\":false,\"x\":[],\"hypothesis_class\":\"\"\x7d" :
        Except (Fault Empty) Config) = .ok ⟨"", defaultTranslationClass, false⟩ ∧
      ∃ c' : Config, c' = ⟨"h", defaultTranslationClass, true⟩ ∧
        (override mixedEnvironment ⟨"", defaultTranslationClass, false⟩ :
          Except (Fault Empty) Config) = .ok c' ∧
        (c'.validate : Except (Fault Empty) Unit) = .ok () ∧
        (c'.override mixedEnvironment : Except (Fault Empty) Config) = .ok c' := by
  obtain ⟨-, hspelled, hoverride, -, hvalid⟩ :=
    resolution (ρ := Empty) ⟨"", defaultTranslationClass, false⟩ mixedEnvironment
  have hhypothesis : mixedEnvironment.get? hypothesisClassVariable = some "h" :=
    Environment.get?_eq_some.2 rfl
  have hflag : mixedEnvironment.get? includeSourceVariable = some "\u3000oN" :=
    Environment.get?_eq_some.2 rfl
  have htranslation : mixedEnvironment.get? translationClassVariable = none := by rfl
  constructor
  · have htext : "\x7b\"include_source\":false,\"x\":[],\"hypothesis_class\":\"\"\x7d".toList =
        '\x7b' :: (stringText "include_source" ++ ':' :: 'f' :: 'a' :: 'l' :: 's' :: 'e' :: ',' ::
          (stringText "x" ++ ':' :: '[' :: ']' :: ',' ::
            (stringText "hypothesis_class" ++ ':' :: (stringText "" ++ ['\x7d'])))) := by decide
    have hother (t) : WellFormed none ('[' :: ']' :: t) t :=
      @WellFormed.framed .list _ _ (.close (.none _))
    refine hspelled ["include_source", "x", "hypothesis_class"] _ (by decide)
      ⟨_, [], .none _, ?_, .none _⟩
    rw [htext]
    refine ⟨_, rfl, ?_⟩
    apply Items.item (.first (.none _))
    · exact ⟨_, ⟨_, _, text_stringText "include_source" _, .none _, .none _⟩, rfl⟩
    apply Items.item (.next (.none _) (.none _))
    · exact ⟨_, ⟨_, _, text_stringText "x" _, .none _, .none _⟩, hother _⟩
    apply Items.item (.next (.none _) (.none _))
    · exact ⟨_, ⟨_, _, text_stringText "hypothesis_class" _, .none _, .none _⟩,
        text_stringText "" _⟩
    exact .close (.none _)
  · have hflag' : SpellsFlag "\u3000oN" true :=
      ⟨['\u3000'], ['o', 'N'], [], rfl, List.forall_mem_singleton.2 (by decide), nofun, by decide⟩
    have hok := (hoverride (.ok ⟨"h", defaultTranslationClass, true⟩)).2 (.ok
      ⟨Environment.takes_text_iff.2 (by rw [hhypothesis]; rfl),
        Environment.takes_text_iff.2 (by rw [htranslation]; rfl),
        Environment.takes_iff.2 (by rw [hflag]; exact hflag')⟩
      ⟨'h', by decide, by decide⟩ ⟨'m', by decide, by decide⟩)
    exact ⟨_, rfl, hok, hvalid _ hok⟩

end Config

end DecoderExport
