import DecoderExport.Proofs.Building
import DecoderExport.Proofs.WarmContext

/-!
# The last error is that of the latest call

Six calls record how they ended, one of them by forgetting what was recorded; the other calls leave
the record alone. So after any calls the last error depends on the latest of the six only: there is
none if that call succeeded or forgot, and otherwise it is in the words of the complaint that the
call failed with. Words with a zero byte cannot be handed over and are replaced.
-/

namespace DecoderExport.Boundary

/-- Whether a call records how it ended. -/
def Call.records : Call → Bool
  | .initLogging _ | .openContext _ | .exportIn .. | .exportOnce .. | .encodeAlignment .. => true
  | .clearError => true
  | .version | .lastError | .closeContext _ | .releaseText _ | .releaseArray _ => false

/-- The answer of a call that can fail and has not. -/
def Answer.Succeeded : Answer → Prop
  | .status s | .output s _ | .array s _ => s = .success
  | .context number => number.isSome
  | _ => False

/-- The answer of a call that has failed: the status, and nothing handed over. -/
def Answer.Failed (failure : Failure) : Answer → Prop
  | .status s => s = failure.status
  | .output s out => s = failure.status ∧ out = none
  | .array s values => s = failure.status ∧ values = none
  | .context number => number = none
  | _ => False

/-- An answer does not tell of success and of a complaint at once. -/
theorem Answer.not_failed_of_succeeded {answer : Answer} {failure : Failure}
    (hs : answer.Succeeded) (hne : failure.status ≠ .success) : ¬ answer.Failed failure := by
  intro hf
  cases answer with
  | status s => exact hne (hf.symm.trans hs)
  | output s out => exact hne (hf.1.symm.trans hs)
  | array s values => exact hne (hf.1.symm.trans hs)
  | context number =>
    change number = none at hf
    subst hf
    cases hs
  | _ => exact hs

/-- The words of a complaint as they are handed over. -/
def handedOver (message : String) : String :=
  if '\x00' ∈ message.toList then "Error message contained null byte" else message

theorem zero_mem_utf8EncodeChar_iff (c : Char) : 0 ∈ String.utf8EncodeChar c ↔ c = '\x00' := by
  constructor
  · intro h
    obtain hcode | hbeyond := toNat_of_mem_utf8EncodeChar h
    · exact Char.ext (UInt32.toNat_inj.1 hcode.symm)
    · exact absurd hbeyond (by decide)
  · rintro rfl
    decide

/-- A text crosses the boundary exactly if it has no zero character. -/
theorem CString.isSome_ofText?_iff (s : String) :
    (CString.ofText? s).isSome ↔ '\x00' ∉ s.toList := by
  have hmem : 0 ∈ Text.encodeUtf8 s ↔ '\x00' ∈ s.toList := by
    rw [← String.ofList_toList (s := s), Text.encodeUtf8_ofList, String.toList_ofList,
      List.mem_flatMap]
    simp only [zero_mem_utf8EncodeChar_iff, exists_eq_right]
  rw [← hmem]
  unfold CString.ofText?
  split <;> simp_all

theorem reportable_eq (message : String) : reportable message = handedOver message := by
  unfold reportable handedOver
  by_cases h : '\x00' ∈ message.toList
  · rw [if_pos h, if_neg (by rw [CString.isSome_ofText?_iff]; exact not_not.2 h)]
  · rw [if_neg h, if_pos ((CString.isSome_ofText?_iff message).2 h)]

namespace Library

variable {check : FilterCheck}

/-- The library after some calls, each made in an environment of its own. -/
def runBy (check : FilterCheck) (lib : Library) (calls : List (Environment × Call)) : Library :=
  calls.foldl (fun lib (env, call) => (lib.stepBy check env call).2) lib

theorem runBy_append (lib : Library) (before after : List (Environment × Call)) :
    lib.runBy check (before ++ after) = (lib.runBy check before).runBy check after :=
  List.foldl_append

theorem lastError_stepBy_of_quiet {call : Call} (h : call.records = false) (env : Environment)
    (lib : Library) : (lib.stepBy check env call).2.lastError = lib.lastError := by
  cases call <;> first | rfl | cases h

theorem lastError_runBy_of_quiet {calls : List (Environment × Call)}
    (h : ∀ p ∈ calls, p.2.records = false) (lib : Library) :
    (lib.runBy check calls).lastError = lib.lastError := by
  induction calls generalizing lib with
  | nil => rfl
  | cons p calls ih =>
    obtain ⟨hp, hr⟩ := List.forall_mem_cons.1 h
    exact (ih hr _).trans (lastError_stepBy_of_quiet hp p.1 lib)

theorem settle_cases {α : Type} (lib : Library) (outcome : Except Failure α) :
    (∃ a, outcome = .ok a ∧ (lib.settle outcome).1 = .success ∧
        (lib.settle outcome).2.1 = some a ∧ (lib.settle outcome).2.2.lastError = none) ∨
      ∃ failure, outcome = .error failure ∧ (lib.settle outcome).1 = failure.status ∧
        (lib.settle outcome).2.1 = none ∧
        (lib.settle outcome).2.2.lastError = some (handedOver failure.message) := by
  cases outcome with
  | ok a => exact .inl ⟨a, rfl, rfl, rfl, rfl⟩
  | error failure => exact .inr ⟨failure, rfl, rfl, rfl, by rw [← reportable_eq]; rfl⟩

/-- An export that has failed writes nothing and leaves its words. -/
theorem deliver_failed (lib : Library) (failure : Failure) :
    (lib.deliver (.error failure)).1.Failed failure ∧
      (lib.deliver (.error failure)).2.lastError = some (handedOver failure.message) := by
  rw [← reportable_eq]
  exact ⟨⟨rfl, rfl⟩, rfl⟩

/-- An export that has built a value succeeds and leaves no error. -/
theorem deliver_built (lib : Library) (v : Value) :
    (lib.deliver (.ok v.toJson.render)).1.Succeeded ∧
      (lib.deliver (.ok v.toJson.render)).2.lastError = none := by
  obtain ⟨out, h, -⟩ := lib.deliver_render v.toJson
  rw [h]
  exact ⟨rfl, rfl⟩

/-- A call that records either succeeds and leaves no error, or fails with a complaint and leaves
its words. -/
theorem stepBy_of_records (check : FilterCheck) {call : Call} (h : call.records = true)
    (env : Environment) (lib : Library) :
    ((call = .clearError ∨ (lib.stepBy check env call).1.Succeeded) ∧
        (lib.stepBy check env call).2.lastError = none) ∨
      ∃ failure, Complaint check env lib call failure ∧
        (lib.stepBy check env call).1.Failed failure ∧
        (lib.stepBy check env call).2.lastError = some (handedOver failure.message) := by
  cases call with
  | clearError => exact .inl ⟨.inl rfl, rfl⟩
  | initLogging filter =>
    obtain ⟨u, -, hs, -, hl⟩ | ⟨failure, he, hs, -, hl⟩ :=
      lib.settle_cases (acceptFilterBy check filter)
    · exact .inl ⟨.inr hs, hl⟩
    · exact .inr ⟨failure, acceptFilterBy_error_iff.1 he, hs, hl⟩
  | openContext config =>
    simp only [stepBy, step]
    obtain ⟨loaded, -, -, ho, hl⟩ | ⟨failure, he, -, ho, hl⟩ :=
      lib.settle_cases (loadConfig env config)
    · rw [ho]
      exact .inl ⟨.inr rfl, hl⟩
    · rw [ho]
      exact .inr ⟨failure, .notOpened (loadConfig_error_iff.1 he), rfl, hl⟩
  | exportIn number input hasPlace =>
    simp only [stepBy, step]
    cases he : (lib.exportIn number input hasPlace).1 with
    | error failure =>
      exact .inr ⟨failure, exportIn_error_iff.1 he, deliver_failed _ failure⟩
    | ok text =>
      obtain ⟨v, hv : Builds env lib _ v, rfl⟩ := exportIn_ok_iff.1 he
      obtain ⟨hs, hl⟩ := (lib.exportIn number input hasPlace).2.deliver_built v
      exact .inl ⟨.inr hs, hl⟩
  | exportOnce input config hasPlace =>
    simp only [stepBy, step]
    cases he : exportOnce env input config hasPlace with
    | error failure =>
      exact .inr ⟨failure, exportOnce_error_iff.1 he, deliver_failed _ failure⟩
    | ok text =>
      obtain ⟨v, hv : Builds env lib _ v, rfl⟩ := exportOnce_ok_iff.1 he
      obtain ⟨hs, hl⟩ := lib.deliver_built v
      exact .inl ⟨.inr hs, hl⟩
  | encodeAlignment indices announced hasPlace =>
    obtain ⟨values, -, hs, -, hl⟩ | ⟨failure, he, hs, ho, hl⟩ :=
      lib.settle_cases (encodeAnnounced indices announced hasPlace)
    · exact .inl ⟨.inr hs, hl⟩
    · exact .inr ⟨failure, encodeAnnounced_error_iff.1 he, ⟨hs, ho⟩, hl⟩
  | _ => cases h

theorem lastError_stepBy_eq_none_iff {call : Call} (h : call.records = true) (env : Environment)
    (lib : Library) :
    (lib.stepBy check env call).2.lastError = none ↔
      call = .clearError ∨ (lib.stepBy check env call).1.Succeeded := by
  obtain ⟨hdone, hnone⟩ | ⟨failure, hc, hf, hsome⟩ := stepBy_of_records check h env lib
  · exact iff_of_true hnone hdone
  · refine iff_of_false (by rw [hsome]; nofun) ?_
    rintro (rfl | hs)
    · cases hc
    · exact Answer.not_failed_of_succeeded hs hc.status_ne_success hf

theorem lastError_stepBy_eq_some_iff {call : Call} (h : call.records = true) (env : Environment)
    (lib : Library) (text : String) :
    (lib.stepBy check env call).2.lastError = some text ↔
      ∃ failure, Complaint check env lib call failure ∧
        (lib.stepBy check env call).1.Failed failure ∧ text = handedOver failure.message := by
  obtain ⟨hdone, hnone⟩ | ⟨failure, hc, hf, hsome⟩ := stepBy_of_records check h env lib
  · refine iff_of_false (by rw [hnone]; nofun) ?_
    rintro ⟨failure, hc, hf, -⟩
    obtain rfl | hs := hdone
    · cases hc
    · exact Answer.not_failed_of_succeeded hs hc.status_ne_success hf
  · rw [hsome, Option.some.injEq]
    constructor
    · rintro rfl
      exact ⟨failure, hc, hf, rfl⟩
    · rintro ⟨failure', hc', -, rfl⟩
      rw [hc.unique hc']

end Library

/-- Of some calls, the latest that records how it ended, with the calls before it. -/
def Latest (calls before : List (Environment × Call)) (env : Environment) (call : Call) : Prop :=
  ∃ after, calls = before ++ (env, call) :: after ∧ call.records = true ∧
    ∀ p ∈ after, p.2.records = false

theorem exists_latest (calls : List (Environment × Call)) :
    (∀ p ∈ calls, p.2.records = false) ∨ ∃ before env call, Latest calls before env call := by
  induction calls with
  | nil => exact .inl nofun
  | cons p calls ih =>
    obtain hquiet | ⟨before, env, call, after, rfl, hr, ha⟩ := ih
    · cases hp : p.2.records with
      | false => exact .inl (List.forall_mem_cons.2 ⟨hp, hquiet⟩)
      | true => exact .inr ⟨[], p.1, p.2, calls, rfl, hp, hquiet⟩
    · exact .inr ⟨p :: before, env, call, after, rfl, hr, ha⟩

theorem Latest.records {calls before : List (Environment × Call)} {env : Environment} {call : Call}
    (h : Latest calls before env call) : call.records = true := by
  obtain ⟨after, -, hr, -⟩ := h
  exact hr

theorem Latest.lastError {check : FilterCheck} {calls before : List (Environment × Call)}
    {env : Environment} {call : Call} (h : Latest calls before env call) (lib : Library) :
    (lib.runBy check calls).lastError =
      ((lib.runBy check before).stepBy check env call).2.lastError := by
  obtain ⟨after, rfl, -, hquiet⟩ := h
  rw [Library.runBy_append]
  exact Library.lastError_runBy_of_quiet hquiet _

namespace Library

variable {check : FilterCheck} {calls : List (Environment × Call)}

theorem lastError_runBy_eq_none_iff :
    (fresh.runBy check calls).lastError = none ↔
      (∀ p ∈ calls, p.2.records = false) ∨
      ∃ before env call, Latest calls before env call ∧
        (call = .clearError ∨
          ((fresh.runBy check before).stepBy check env call).1.Succeeded) := by
  constructor
  · intro hnone
    obtain hquiet | ⟨before, env, call, h⟩ := exists_latest calls
    · exact .inl hquiet
    · rw [h.lastError, lastError_stepBy_eq_none_iff h.records] at hnone
      exact .inr ⟨before, env, call, h, hnone⟩
  · rintro (hquiet | ⟨before, env, call, h, hdone⟩)
    · exact lastError_runBy_of_quiet hquiet _
    · rw [h.lastError, lastError_stepBy_eq_none_iff h.records]
      exact hdone

theorem lastError_runBy_eq_some_iff {text : String} :
    (fresh.runBy check calls).lastError = some text ↔
      ∃ before env call failure, Latest calls before env call ∧
        Complaint check env (fresh.runBy check before) call failure ∧
        ((fresh.runBy check before).stepBy check env call).1.Failed failure ∧
        text = handedOver failure.message := by
  constructor
  · intro hsome
    obtain hquiet | ⟨before, env, call, h⟩ := exists_latest calls
    · rw [lastError_runBy_of_quiet hquiet] at hsome
      cases hsome
    · rw [h.lastError, lastError_stepBy_eq_some_iff h.records] at hsome
      obtain ⟨failure, hc, hf, rfl⟩ := hsome
      exact ⟨before, env, call, failure, h, hc, hf, rfl⟩
  · rintro ⟨before, env, call, failure, h, hc, hf, rfl⟩
    rw [h.lastError, lastError_stepBy_eq_some_iff h.records]
    exact ⟨failure, hc, hf, rfl⟩

end Library

/-- After any calls, whatever accepts the log filters: there is no last error exactly if nothing
has been recorded, or the latest call that records has succeeded or was the one that forgets. There
is one exactly if that call has failed, and it is in the words of its complaint. With the check that
the library comes with, these are the answers of `Library.step`. -/
theorem last_error_of_latest_call (check : FilterCheck) (calls : List (Environment × Call))
    (now : Environment) :
    let shown := ((Library.fresh.runBy check calls).stepBy check now .lastError).1
    (shown = .message none ↔
      (∀ p ∈ calls, p.2.records = false) ∨
      ∃ before env call, Latest calls before env call ∧
        (call = .clearError ∨
          ((Library.fresh.runBy check before).stepBy check env call).1.Succeeded)) ∧
    (∀ text, shown = .message (some text) ↔
      ∃ before env call failure, Latest calls before env call ∧
        Complaint check env (Library.fresh.runBy check before) call failure ∧
        ((Library.fresh.runBy check before).stepBy check env call).1.Failed failure ∧
        text = handedOver failure.message) ∧
    (∀ (lib : Library) (env : Environment) (call : Call), call.records = false →
      (lib.stepBy check env call).2.lastError = lib.lastError) ∧
    ∀ (lib : Library) (env : Environment) (call : Call),
      lib.stepBy LogFilter.standard env call = lib.step env call := by
  intro shown
  have hshown : shown = .message (Library.fresh.runBy check calls).lastError := rfl
  rw [hshown]
  simp only [Answer.message.injEq]
  exact ⟨Library.lastError_runBy_eq_none_iff, fun _ => Library.lastError_runBy_eq_some_iff,
    fun lib env call h => Library.lastError_stepBy_of_quiet h env lib,
    fun lib env call => Library.stepBy_standard env lib call⟩

end DecoderExport.Boundary
