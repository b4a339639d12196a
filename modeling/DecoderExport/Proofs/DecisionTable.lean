import DecoderExport.Proofs.Configuration
import DecoderExport.Proofs.Contexts

/-!
# Which status a single export ends with

`Request.verdict` is the decision table of `Call.exportOnce`: the statuses in the order in which
they take precedence, each with its condition in terms of the arguments, what they spell, and the
environment. Every library answers every request with the verdict. It hands a text over exactly on
success, and then that text is the JSON form of the translation.
-/

namespace DecoderExport.Boundary

/-- Everything that a single export depends on. -/
structure Request where
  input : Argument
  config : Argument
  env : Environment
  hasPlace : Bool

/-- An argument is given, but it is not UTF-8. -/
def Garbled (argument : Argument) : Prop :=
  ∃ s ∈ argument, Text.decodeUtf8? s.bytes = none

instance (argument : Argument) : Decidable (Garbled argument) :=
  inferInstanceAs (Decidable (∃ s ∈ argument, Text.decodeUtf8? s.bytes = none))

/-- The text that an argument spells. -/
def textOf (argument : Argument) : Option String :=
  argument.bind fun s => Text.decodeUtf8? s.bytes

namespace Request

/-- The text of the configuration is none that is accepted. -/
def HasBadConfig (r : Request) : Prop :=
  ∃ t ∈ textOf r.config, (Config.shape.reader.whole t).toOption = none

instance (r : Request) : Decidable r.HasBadConfig :=
  inferInstanceAs
    (Decidable (∃ t ∈ textOf r.config, (Config.shape.reader.whole t).toOption = none))

/-- The configuration that is spelled. Where none is, the defaults hold. -/
def spelled (r : Request) : Config :=
  ((textOf r.config).bind fun t => (Config.shape.reader.whole t).toOption).getD {}

/-- The configuration that takes effect. -/
def effective (r : Request) : Config := r.spelled.merged r.env

/-- The decoder output that is spelled. -/
def output? (r : Request) : Option DecoderOutput :=
  (textOf r.input).bind fun t => (DecoderOutput.reader.whole t).toOption

/-- The status for a decoder output: an index that does not fit goes before a class that is not
found. -/
def verdictOn (r : Request) (o : DecoderOutput) : Status :=
  if ∃ p ∈ o.alignment, maxIndex < p.source.toNat ∨ maxIndex < p.target.toNat then .narrowingError
  else if r.effective.hypothesisClass ≠ defaultHypothesisClass ∨
      r.effective.translationClass ≠ defaultTranslationClass then .linkageError
  else .success

/-- The status for a request. -/
def verdict (r : Request) : Status :=
  if r.input = none ∨ r.hasPlace = false then .nullPointer
  else if Garbled r.config then .encodingError
  else if r.HasBadConfig ∨ r.env.HasBadFlag ∨ r.effective.HasBlankName then .configurationError
  else if Garbled r.input then .encodingError
  else r.output?.elim .jsonError r.verdictOn

/-- The text is the JSON text of the translation. -/
def Makes (r : Request) (text : String) : Prop :=
  ∃ o, r.output? = some o ∧ text = (o.exported r.effective.includeSource).render

/-- The bytes are those of the JSON text of the translation. -/
def Delivers (r : Request) (out : CString) : Prop :=
  ∃ o, r.output? = some o ∧
    out.bytes = Text.encodeUtf8 (o.exported r.effective.includeSource).render

end Request

/-- An outcome is a failure with a status. -/
def FailsWith {α : Type} (s : Status) (outcome : Except Failure α) : Prop :=
  ∃ message, outcome = .error ⟨s, message⟩

/-- An outcome ends with a status, and a success has the property. -/
def EndsWith {α : Type} (s : Status) (outcome : Except Failure α) (holds : α → Prop) : Prop :=
  s ≠ .success ∧ FailsWith s outcome ∨ s = .success ∧ ∃ a, outcome = .ok a ∧ holds a

theorem FailsWith.bind {α β : Type} {s : Status} {outcome : Except Failure α}
    (h : FailsWith s outcome) (next : α → Except Failure β) : FailsWith s (outcome >>= next) := by
  obtain ⟨message, rfl⟩ := h
  exact ⟨message, rfl⟩

theorem CString.text_garbled {s : CString} (h : Garbled (some s)) :
    FailsWith .encodingError s.text := by
  obtain ⟨s', hs', hn⟩ := h
  cases hs'
  refine ⟨"Invalid UTF-8 in input string", ?_⟩
  simp only [text, hn]

theorem CString.text_ok {s : CString} (h : ¬ Garbled (some s)) :
    ∃ t, s.text = .ok t ∧ textOf (some s) = some t := by
  cases ht : Text.decodeUtf8? s.bytes with
  | none => exact absurd ⟨s, rfl, ht⟩ h
  | some t => exact ⟨t, by simp only [text, ht], ht⟩

/-- What is left to do for a configuration whose text is known. -/
theorem loadConfig_text {env : Environment} {s : CString} {t : String} (h : s.text = .ok t) :
    loadConfig env (some s) =
      ((Config.ofJson t : Except (Fault Empty) Config).mapError .ofFault).bind fun base =>
        (base.override env : Except (Fault Empty) Config).mapError .ofFault := by
  unfold loadConfig
  simp only [h]
  rfl

namespace Request

variable {r : Request}

theorem loadConfig_garbled (h : Garbled r.config) :
    FailsWith .encodingError (loadConfig r.env r.config) := by
  cases hc : r.config with
  | none =>
    obtain ⟨s, hs, -⟩ := h
    rw [hc] at hs
    cases hs
  | some s =>
    rw [hc] at h
    obtain ⟨message, hm⟩ := s.text_garbled h
    refine ⟨message, ?_⟩
    unfold loadConfig
    simp only [hm]
    rfl

theorem loadConfig_badConfig (hg : ¬ Garbled r.config) (hb : r.HasBadConfig) :
    FailsWith .configurationError (loadConfig r.env r.config) := by
  obtain ⟨t, ht, hw⟩ := hb
  cases hc : r.config with
  | none =>
    rw [hc] at ht
    cases ht
  | some s =>
    rw [hc] at hg ht
    obtain ⟨t', htext, ht'⟩ := CString.text_ok hg
    rw [Option.mem_def, ht', Option.some.injEq] at ht
    subst ht
    cases hr : Config.shape.reader.whole t' with
    | ok c =>
      rw [hr] at hw
      cases hw
    | error refusal =>
      rw [loadConfig_text htext, Config.ofJson]
      simp only [hr]
      exact ⟨_, rfl⟩

/-- What is spelled is accepted, or nothing is spelled: the rest is up to the environment. -/
theorem loadConfig_spelled (hg : ¬ Garbled r.config) (hb : ¬ r.HasBadConfig) :
    loadConfig r.env r.config =
      (r.spelled.override r.env : Except (Fault Empty) Config).mapError .ofFault := by
  cases hc : r.config with
  | none =>
    have hs : r.spelled = {} := by
      rw [spelled, hc]
      rfl
    rw [hs]
    rfl
  | some s =>
    rw [hc] at hg
    obtain ⟨t, htext, ht⟩ := CString.text_ok hg
    cases hr : Config.shape.reader.whole t with
    | error refusal => exact absurd ⟨t, by rw [hc, ht]; rfl, by rw [hr]; rfl⟩ hb
    | ok c =>
      have hs : r.spelled = c := by
        simp only [spelled, hc, ht, Option.bind_some, hr]
        rfl
      rw [loadConfig_text htext, Config.ofJson, hs]
      simp only [hr]
      rfl

theorem loadConfig_misconfigured (hg : ¬ Garbled r.config)
    (h : r.HasBadConfig ∨ r.env.HasBadFlag ∨ r.effective.HasBlankName) :
    FailsWith .configurationError (loadConfig r.env r.config) := by
  by_cases hb : r.HasBadConfig
  · exact loadConfig_badConfig hg hb
  · obtain ⟨why, hwhy⟩ := Config.override_error (ρ := Empty) (h.resolve_left hb)
    rw [loadConfig_spelled hg hb, hwhy]
    exact ⟨_, rfl⟩

theorem loadConfig_ok (hg : ¬ Garbled r.config)
    (h : ¬ (r.HasBadConfig ∨ r.env.HasBadFlag ∨ r.effective.HasBlankName)) :
    loadConfig r.env r.config = .ok r.effective := by
  obtain ⟨hb, h⟩ := not_or.1 h
  obtain ⟨hf, hn⟩ := not_or.1 h
  rw [loadConfig_spelled hg hb, Config.override_ok hf hn]
  rfl

/-- What a context for the effective configuration makes of an output. -/
theorem exportOutput_verdict {c : Context} (hc : c.Serves r.effective) (o : DecoderOutput) :
    EndsWith (r.verdictOn o) (c.exportOutput o).1
      (· = (o.exported r.effective.includeSource).render) := by
  unfold verdictOn
  cases ha : (Alignment.encode o.alignment : Except (Fault Empty) Alignment) with
  | error f =>
    obtain ⟨k, p, side, hk, rfl, hlarge, -, -⟩ := Alignment.encode_error ha
    have hwide : ∃ p ∈ o.alignment, maxIndex < p.source.toNat ∨ maxIndex < p.target.toNat := by
      refine ⟨p, List.mem_of_getElem? hk, ?_⟩
      cases side
      · exact .inl hlarge
      · exact .inr hlarge
    rw [if_pos hwide, hc.exportOutput_of_error ha]
    exact .inl ⟨nofun, _, rfl⟩
  | ok alignment =>
    have hfits := Alignment.fits_of_encodeFrom_ok ha
    have hwide : ¬ ∃ p ∈ o.alignment, maxIndex < p.source.toNat ∨ maxIndex < p.target.toNat := by
      rintro ⟨p, hp, hs | ht⟩
      · exact Nat.not_le_of_lt hs (hfits p hp).1
      · exact Nat.not_le_of_lt ht (hfits p hp).2
    rw [if_neg hwide]
    by_cases hn : r.effective.hypothesisClass = defaultHypothesisClass ∧
        r.effective.translationClass = defaultTranslationClass
    · obtain ⟨hh, ht⟩ := hn
      rw [if_neg (by simp [hh, ht]), hc.exportOutput_of_default hh ht hfits]
      exact .inr ⟨rfl, _, rfl, rfl⟩
    · obtain ⟨f, hf, h⟩ := exportOutput_of_other hn hfits
      rw [if_pos (by simpa only [ne_eq, ← not_and_or] using hn), h c hc]
      cases f with
      | linkage cls signature why => exact .inl ⟨nofun, _, rfl⟩
      | _ => cases hf

/-- What is reported and what is made, once the configuration is loaded. -/
theorem exportWith_verdict {c : Context} (hc : c.Serves r.effective) {s : CString}
    (hs : r.input = some s) (hg : ¬ Garbled r.input) :
    EndsWith (r.output?.elim .jsonError r.verdictOn) (Library.exportWith c s).1 r.Makes := by
  rw [hs] at hg
  obtain ⟨t, htext, ht⟩ := CString.text_ok hg
  have ho : r.output? = (DecoderOutput.reader.whole t).toOption := by
    rw [output?, hs, ht]
    rfl
  simp only [ho, Library.exportWith, htext, Context.exportJson, Context.readOutput]
  cases hw : DecoderOutput.reader.whole t with
  | error refusal => exact .inl ⟨nofun, _, rfl⟩
  | ok o =>
    obtain ⟨hne, message, hm⟩ | ⟨heq, text, hm, rfl⟩ := exportOutput_verdict hc o
    · exact .inl ⟨hne, message, hm⟩
    · exact .inr ⟨heq, _, hm, o, by rw [ho, hw]; rfl, rfl⟩

theorem exportOnce_verdict (r : Request) :
    EndsWith r.verdict (Library.exportOnce r.env r.input r.config r.hasPlace) r.Makes := by
  unfold verdict Library.exportOnce
  cases hi : r.input with
  | none => exact .inl ⟨nofun, _, rfl⟩
  | some s =>
    cases hp : r.hasPlace with
    | false => exact .inl ⟨nofun, _, rfl⟩
    | true =>
      simp only [reduceCtorEq, or_self, if_false, if_true]
      by_cases hg : Garbled r.config
      · rw [if_pos hg]
        exact .inl ⟨nofun, (loadConfig_garbled hg).bind _⟩
      rw [if_neg hg]
      by_cases hm : r.HasBadConfig ∨ r.env.HasBadFlag ∨ r.effective.HasBlankName
      · rw [if_pos hm]
        exact .inl ⟨nofun, (loadConfig_misconfigured hg hm).bind _⟩
      rw [if_neg hm, loadConfig_ok hg hm]
      change EndsWith _ (Library.exportWith (.ofConfig r.effective) s).1 _
      by_cases hb : Garbled (some s)
      · rw [if_pos hb]
        obtain ⟨message, htext⟩ := s.text_garbled hb
        refine .inl ⟨nofun, message, ?_⟩
        simp only [Library.exportWith, htext]
      · rw [if_neg hb]
        exact exportWith_verdict (.ofConfig r.effective) hi (by rw [hi]; exact hb)

/-- Some statuses have no row in the table. -/
theorem verdict_mem (r : Request) :
    r.verdict ∈ [.success, .nullPointer, .encodingError, .configurationError, .jsonError,
      .narrowingError, .linkageError] := by
  unfold verdict
  split
  · simp
  split
  · simp
  split
  · simp
  split
  · simp
  cases r.output? with
  | none => simp
  | some o =>
    simp only [Option.elim, verdictOn]
    split
    · simp
    split
    · simp
    · simp

end Request

/-- An export that has failed leaves the place for its result alone. -/
theorem Library.deliver_error (lib : Library) (failure : Failure) :
    lib.deliver (.error failure) =
      (.output failure.status none, { lib with lastError := some (reportable failure.message) }) :=
  rfl

/-- What has been rendered is written to the place for a result. -/
theorem Library.deliver_render (lib : Library) (t : Json.Tree) :
    ∃ out, lib.deliver (.ok t.render) =
      (.output .success (some (some out)), { lib with lastError := none }) ∧
      out.bytes = Text.encodeUtf8 t.render := by
  obtain ⟨out, hout, hbytes⟩ := writeOutput_render t
  refine ⟨out, ?_, hbytes⟩
  simp only [deliver, hout, settle]

/-- Every request ends with its verdict. Only on success is something written to the place for the
result, and it is the translation of the decoder output that was spelled. Four of the failures never
occur. -/
theorem Library.exportOnce_status (lib : Library) (r : Request) :
    ∃ out, (lib.step r.env (.exportOnce r.input r.config r.hasPlace)).1 = .output r.verdict out ∧
      (r.verdict ≠ .success → out = none) ∧
      (r.verdict = .success → ∃ c, out = some (some c) ∧ r.Delivers c) ∧
      r.verdict ∉ [.constructionError, .malformedAlignment, .memoryError, .internalError] := by
  have hnever : r.verdict ∉ [.constructionError, .malformedAlignment, .memoryError,
      .internalError] := by
    have h := r.verdict_mem
    generalize r.verdict = s at h ⊢
    cases s <;> simp_all
  obtain ⟨hne, message, h⟩ | ⟨heq, text, h, o, ho, rfl⟩ := r.exportOnce_verdict
  · refine ⟨none, ?_, fun _ => rfl, fun heq => absurd heq hne, hnever⟩
    simp only [step, h, deliver_error]
  · obtain ⟨c, hc, hbytes⟩ := lib.deliver_render (o.exported r.effective.includeSource)
    refine ⟨some (some c), ?_, fun hne => absurd heq hne, fun _ => ⟨c, rfl, o, ho, hbytes⟩, hnever⟩
    simp only [step, h, hc, heq]

end DecoderExport.Boundary
