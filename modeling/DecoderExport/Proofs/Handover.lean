import DecoderExport.Proofs.ConfigResolution
import DecoderExport.Proofs.LastError
import DecoderExport.Proofs.PayloadSpelling

/-!
# Results are handed over whole

A text crosses the boundary as bytes with a terminator behind them, and a caller reads up to the
first zero byte. The JSON text of a value has no byte below the blank, whatever the value holds, so
its terminator is the first zero byte that the caller meets. Hence every value that a call builds is
handed over whole, whatever classes the context knows, and no call ends for want of memory.
-/

namespace DecoderExport.Boundary

namespace CString

theorem ext_bytes {s t : CString} (h : s.bytes = t.bytes) : s = t := by
  cases s
  cases t
  cases h
  rfl

/-- Bytes with a terminator are read back, whatever lies behind the terminator. -/
theorem cut_terminated (s : CString) (behind : List UInt8) : cut (s.bytes ++ 0 :: behind) = s := by
  have hbytes : ∀ b ∈ s.bytes, decide (b ≠ 0) = true := by
    intro b hb
    exact decide_eq_true fun h => s.noNul (h ▸ hb)
  have hstop : ∀ b r, (0 : UInt8) :: behind = b :: r → decide (b ≠ 0) = false := by
    rintro b r ⟨⟩
    rfl
  exact ext_bytes (Json.takeWhile_append_stop hbytes hstop)

/-- A caller who reads these bytes up to their terminator, whatever lies behind it, gets all bytes
of the text, and so the text. -/
def ReadsAs (s : CString) (text : String) : Prop :=
  ∀ behind, (cut (s.bytes ++ 0 :: behind)).bytes = Text.encodeUtf8 text ∧
    (cut (s.bytes ++ 0 :: behind)).text = .ok text

theorem readsAs_iff {s : CString} {text : String} :
    s.ReadsAs text ↔ s.bytes = Text.encodeUtf8 text := by
  simp only [ReadsAs, cut_terminated, forall_const, text_ok_iff, textOf, Option.bind_some,
    Text.decodeUtf8?_eq_some, and_self]

end CString

/-- A result that can be written is written in bytes that read as it. -/
theorem writeOutput_of_readsAs {text : String} {out : CString} (h : out.ReadsAs text) :
    writeOutput text = (some out, .ok ()) := by
  rw [CString.readsAs_iff] at h
  have hn : 0 ∉ Text.encodeUtf8 text := h ▸ out.noNul
  have hout : CString.ofText? text = some out := by
    rw [CString.ofText?, dif_neg hn]
    exact congrArg some (CString.ext_bytes h.symm)
  simp only [writeOutput, hout]

-- The refusal is there: a text that has not been escaped may fall to it, and null is written.
example : writeOutput "a\x00b" = (none, .error ⟨.memoryError, "String contains null byte"⟩) := by
  rfl

/-- The JSON text of a value is handed over. -/
theorem exists_readsAs_toJson (v : Value) : ∃ out : CString, out.ReadsAs v.toJson.render := by
  obtain ⟨out, -, hbytes⟩ := writeOutput_render v.toJson
  exact ⟨out, CString.readsAs_iff.2 hbytes⟩

/-- The status that an answer tells, if it tells one. -/
def Answer.status? : Answer → Option Status
  | .status s | .output s _ | .array s _ => some s
  | .text _ | .message _ | .done | .context _ => none

namespace Answer

variable {answer : Answer}

theorem status?_of_succeeded (h : answer.Succeeded) : ∀ s ∈ answer.status?, s = .success := by
  intro s hs
  cases answer with
  | status _ | output _ _ | array _ _ =>
    cases hs
    exact h
  | _ => cases hs

theorem status?_of_failed {failure : Failure} (h : answer.Failed failure) :
    ∀ s ∈ answer.status?, s = failure.status := by
  intro s hs
  cases answer with
  | status _ =>
    cases hs
    exact h
  | output _ _ | array _ _ =>
    cases hs
    exact h.1
  | _ => cases hs

end Answer

namespace Library

variable {env : Environment} {lib : Library} {call : Call}

/-- What a call builds is handed over with the answer. -/
theorem handedOver_of_builds {v : Value} (h : Builds env lib call v) :
    ∃ out : CString, (lib.step env call).1 = .output .success (some (some out)) ∧
      out.ReadsAs v.toJson.render := by
  obtain ⟨out, hout⟩ := exists_readsAs_toJson v
  refine ⟨out, ?_, hout⟩
  have hwrite := writeOutput_of_readsAs hout
  cases call with
  | exportIn number input hasPlace =>
    simp only [step, exportIn_ok_iff.2 ⟨v, h, rfl⟩, deliver, hwrite, settle]
  | exportOnce input config hasPlace =>
    simp only [step, exportOnce_ok_iff.2 ⟨v, h, rfl⟩, deliver, hwrite, settle]
  | _ => cases h

/-- An export that ends in success has built something. -/
theorem exists_builds_of_success {written : Option (Option CString)}
    (h : (lib.step env call).1 = .output .success written) : ∃ v, Builds env lib call v := by
  cases call with
  | exportIn number input hasPlace =>
    simp only [step] at h
    cases he : (lib.exportIn number input hasPlace).1 with
    | error failure =>
      have hc : Complaint LogFilter.standard env lib _ failure := exportIn_error_iff.1 he
      rw [he, deliver_error] at h
      exact absurd (Answer.output.inj h).1 hc.status_ne_success
    | ok text =>
      obtain ⟨v, hv, -⟩ := exportIn_ok_iff.1 he
      exact ⟨v, hv⟩
  | exportOnce input config hasPlace =>
    simp only [step] at h
    cases he : exportOnce env input config hasPlace with
    | error failure =>
      have hc : Complaint LogFilter.standard env lib _ failure := exportOnce_error_iff.1 he
      rw [he, deliver_error] at h
      exact absurd (Answer.output.inj h).1 hc.status_ne_success
    | ok text =>
      obtain ⟨v, hv, -⟩ := exportOnce_ok_iff.1 he
      exact ⟨v, hv⟩
  | openContext config =>
    simp only [step] at h
    split at h <;> cases h
  | _ => cases h

/-- No call ends for want of memory. -/
theorem status_ne_memoryError (env : Environment) (lib : Library) (call : Call) :
    (lib.step env call).1.status? ≠ some .memoryError := by
  intro h
  rw [← stepBy_standard] at h
  -- Only calls that record how they ended tell a status, and those that fail have a complaint.
  cases hr : call.records with
  | false => cases call <;> first | cases h | cases hr
  | true =>
    obtain ⟨rfl | hs, -⟩ | ⟨failure, hc, hf, -⟩ := stepBy_of_records LogFilter.standard hr env lib
    · cases h
    · cases Answer.status?_of_succeeded hs _ h
    · exact hc.status_not_mem (by simp [← Answer.status?_of_failed hf _ h])

end Library

/-- The JSON text of a value has no byte below the blank, and it is handed over whole. So whatever
contexts are open, and whatever classes they know, a call hands over exactly what it has built, and
no call ends for want of memory. -/
theorem rendered_handed_over_whole :
    (∀ v : Value, (∀ b ∈ Text.encodeUtf8 v.toJson.render, 0x20 ≤ b.toNat) ∧
      ∃ out : CString, writeOutput v.toJson.render = (some out, .ok ()) ∧
        out.ReadsAs v.toJson.render) ∧
    ∀ (env : Environment) (lib : Library) (call : Call),
      (∀ v, Builds env lib call v → ∃ out : CString,
        (lib.step env call).1 = .output .success (some (some out)) ∧
          out.ReadsAs v.toJson.render) ∧
      (∀ written, (lib.step env call).1 = .output .success written →
        ∃ v, Builds env lib call v) ∧
      (lib.step env call).1.status? ≠ some .memoryError := by
  constructor
  · intro v
    obtain ⟨out, hout⟩ := exists_readsAs_toJson v
    exact ⟨bytes_render v.toJson, out, writeOutput_of_readsAs hout, hout⟩
  · intro env lib call
    exact ⟨fun _ => Library.handedOver_of_builds, fun _ => Library.exists_builds_of_success,
      Library.status_ne_memoryError env lib call⟩

/-- A decoder output whose text is a zero character. -/
def zeroCharacter : DecoderOutput := ⟨"\x00", none, [], []⟩

theorem spelled_zeroCharacter :
    Json.Document zeroCharacter.Spelled "\x7b\"text\":\"\\u0000\"\x7d" := by
  have htext : "\x7b\"text\":\"\\u0000\"\x7d".toList = ['\x7b', '"', 't', 'e', 'x', 't', '"', ':',
      '"', '\\', 'u', '0', '0', '0', '0', '"', '\x7d'] := by decide
  refine ⟨_, [], .none _, .inl ⟨["text"], by decide, ?_, ?_⟩, .none _⟩
  · simp [DecoderOutput.fields, DecoderOutput.nbestField, zeroCharacter]
  · rw [htext]
    refine ⟨_, rfl, .item (.first (.none _)) ?_ (.close (.none _))⟩
    exact ⟨_, ⟨_, _, Json.text_stringText "text" _, .none _, .none _⟩,
      Json.text_stringText "\x00" _⟩

/-- The class of translations has been replaced by one with a zero character in the name of a field,
and the text of the decoder output is a zero character too. -/
theorem rendered_handed_over_whole_zero_characters :
    let cls : ClassDef := {
      name := defaultTranslationClass
      fields := ["\x00\t", "hypotheses", "alignment"]
      constructors :=
        [⟨.narrow defaultHypothesisClass, ["\x00\t", "hypotheses", "alignment"], none⟩]
      suited := by simp [Constructor.Suits, Signature.narrow, Signature.arity] }
    let c : Context := ⟨.ofConfig {}, ⟨ObjectModel.withDefaultClasses.register cls, 0⟩⟩
    let lib : Library := ⟨[(0, c)], 1, none⟩
    let input : CString := ⟨Text.encodeUtf8 "\x7b\"text\":\"\\u0000\"\x7d", by decide⟩
    let v : Value := .object 2 defaultTranslationClass [("\x00\t", .text "\x00"),
      ("hypotheses", .array 0 defaultHypothesisClass []), ("alignment", .ints 1 [])]
    Builds [] lib (.exportIn (some 0) (some input) true) v ∧
      ∃ out : CString,
        (lib.step [] (.exportIn (some 0) (some input) true)).1 =
          .output .success (some (some out)) ∧
        out.ReadsAs
          "\x7b\"\\u0000\\t\":\"\\u0000\",\"alignment\":[],\"hypotheses\":[]\x7d" := by
  intro cls c lib input v
  have hread := zeroCharacter.reader_reads.whole spelled_zeroCharacter
  have hbuilds : Builds [] lib (.exportIn (some 0) (some input) true) v :=
    .within rfl ⟨_, zeroCharacter, Text.decodeUtf8?_eq_some.2 rfl, hread, rfl⟩
  have hrender : v.toJson.render =
      "\x7b\"\\u0000\\t\":\"\\u0000\",\"alignment\":[],\"hypotheses\":[]\x7d" := rfl
  obtain ⟨out, hstep, hout⟩ := (rendered_handed_over_whole.2 [] lib _).1 v hbuilds
  exact ⟨hbuilds, out, hstep, hrender ▸ hout⟩

end DecoderExport.Boundary
