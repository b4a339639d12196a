import DecoderExport.Proofs.DecisionTable

/-!
# Why a call fails, and what it says

`Complaint` lists the grounds on which calls across the boundary fail, each with the status and the
words that belong to it: an argument that is absent, bytes that are no text, a text that is refused,
a fault with its own wording. A call fails exactly if there is a complaint, and it fails with that
one. What accepts a log filter is a parameter here.
-/

namespace DecoderExport.Boundary

/-- Decides about log filters. A filter that is refused is refused with some wording. -/
abbrev FilterCheck := String → Except String Unit

/-- The check that the library comes with. -/
def LogFilter.standard : FilterCheck := fun filter =>
  (LogFilter.check filter).mapError FilterTrouble.message

/-- Bytes that are no text. -/
def Failure.garbled : Failure := ⟨.encodingError, "Invalid UTF-8 in input string"⟩

namespace Library

/-- Accepts a log filter by a check of its own. -/
def acceptFilterBy (check : FilterCheck) (filter : Argument) : Except Failure Unit := do
  let filter ← filter.elim (pure defaultFilter) CString.text
  (check filter).mapError fun why => ⟨.invalidInput, s!"Invalid log filter '{filter}': {why}"⟩

/-- Answers a call, log filters being accepted by the given check. -/
def stepBy (check : FilterCheck) (env : Environment) (lib : Library) : Call → Answer × Library
  | .initLogging filter =>
    let (status, _, lib) := lib.settle (acceptFilterBy check filter)
    (.status status, lib)
  | call => lib.step env call

theorem acceptFilterBy_standard (filter : Argument) :
    acceptFilterBy LogFilter.standard filter = acceptFilter filter := by
  unfold acceptFilterBy acceptFilter LogFilter.standard
  congr 1
  funext text
  cases LogFilter.check text <;> rfl

/-- With the check that the library comes with, calls are answered as they are. -/
theorem stepBy_standard (env : Environment) (lib : Library) (call : Call) :
    lib.stepBy LogFilter.standard env call = lib.step env call := by
  cases call with
  | initLogging filter => simp only [stepBy, step, acceptFilterBy_standard]
  | _ => rfl

end Library

/-- Why a configuration is not loaded. -/
inductive ConfigComplaint (env : Environment) : Argument → Failure → Prop
  | garbled {s : CString} (h : Text.decodeUtf8? s.bytes = none) :
      ConfigComplaint env (some s) .garbled
  | refused {config : Argument} {t : String} {fault : Fault Empty} (ht : textOf config = some t)
      (h : Config.ofJson t = .error fault) :
      ConfigComplaint env config ⟨.ofFault fault, fault.message⟩
  | absent {fault : Fault Empty} (h : Config.override env {} = .error fault) :
      ConfigComplaint env none ⟨.ofFault fault, fault.message⟩
  | overridden {config : Argument} {t : String} {base : Config} {fault : Fault Empty}
      (ht : textOf config = some t)
      (hb : (Config.ofJson t : Except (Fault Empty) Config) = .ok base)
      (h : base.override env = .error fault) :
      ConfigComplaint env config ⟨.ofFault fault, fault.message⟩

/-- Why a context does not export an input. -/
inductive ExportComplaint (c : Context) (s : CString) : Failure → Prop
  | garbled (h : Text.decodeUtf8? s.bytes = none) : ExportComplaint c s .garbled
  | refused {t : String} {refusal : Json.Refusal} (ht : textOf (some s) = some t)
      (h : DecoderOutput.reader.whole t = .error refusal) :
      ExportComplaint c s ⟨.jsonError, "Invalid decoder output JSON: " ++ refusal.message⟩
  | fault {t : String} {o : DecoderOutput} {fault : Fault Empty} (ht : textOf (some s) = some t)
      (ho : DecoderOutput.reader.whole t = .ok o)
      (h : (c.exporter.marshal o c.world).1 = .error fault) :
      ExportComplaint c s ⟨.ofFault fault, fault.message⟩

/-- Why a call fails, in the order in which its grounds are looked at: a later one counts only where
the arguments before it were found to be in order. -/
inductive Complaint (check : FilterCheck) (env : Environment) (lib : Library) :
    Call → Failure → Prop
  | filterGarbled {s : CString} (h : Text.decodeUtf8? s.bytes = none) :
      Complaint check env lib (.initLogging (some s)) .garbled
  | defaultRefused {why : String} (h : check Library.defaultFilter = .error why) :
      Complaint check env lib (.initLogging none)
        ⟨.invalidInput, "Invalid log filter '" ++ Library.defaultFilter ++ "': " ++ why⟩
  | filterRefused {s : CString} {t why : String} (ht : textOf (some s) = some t)
      (h : check t = .error why) :
      Complaint check env lib (.initLogging (some s))
        ⟨.invalidInput, "Invalid log filter '" ++ t ++ "': " ++ why⟩
  | notOpened {config : Argument} {failure : Failure} (h : ConfigComplaint env config failure) :
      Complaint check env lib (.openContext config) failure
  | contextAbsent {number : Option Nat} {input : Argument} {hasPlace : Bool}
      (h : lib.context? number = none) :
      Complaint check env lib (.exportIn number input hasPlace) ⟨.nullPointer, "context is null"⟩
  | inputAbsent {number : Option Nat} {c : Context} {hasPlace : Bool}
      (hc : lib.context? number = some c) :
      Complaint check env lib (.exportIn number none hasPlace)
        ⟨.nullPointer, "decoder_output_json is null"⟩
  | placeAbsent {number : Option Nat} {c : Context} {s : CString}
      (hc : lib.context? number = some c) :
      Complaint check env lib (.exportIn number (some s) false) ⟨.nullPointer, "out_json is null"⟩
  | notExported {number : Option Nat} {c : Context} {s : CString} {failure : Failure}
      (hc : lib.context? number = some c) (h : ExportComplaint c s failure) :
      Complaint check env lib (.exportIn number (some s) true) failure
  | onceInputAbsent {config : Argument} {hasPlace : Bool} :
      Complaint check env lib (.exportOnce none config hasPlace)
        ⟨.nullPointer, "decoder_output_json is null"⟩
  | oncePlaceAbsent {s : CString} {config : Argument} :
      Complaint check env lib (.exportOnce (some s) config false)
        ⟨.nullPointer, "out_json is null"⟩
  | onceNotOpened {s : CString} {config : Argument} {failure : Failure}
      (h : ConfigComplaint env config failure) :
      Complaint check env lib (.exportOnce (some s) config true) failure
  | onceNotExported {s : CString} {config : Argument} {loaded : Config} {failure : Failure}
      (hl : loadConfig env config = .ok loaded)
      (h : ExportComplaint (.ofConfig loaded) s failure) :
      Complaint check env lib (.exportOnce (some s) config true) failure
  | arrayPlaceAbsent {indices : Option (List UInt64)} {announced : Nat} :
      Complaint check env lib (.encodeAlignment indices announced false)
        ⟨.nullPointer, "out is null"⟩
  | indicesAbsent {announced : Nat} (hn : announced ≠ 0) :
      Complaint check env lib (.encodeAlignment none announced true)
        ⟨.nullPointer, "pairs is null"⟩
  | tooManyPairs {indices : List UInt64} {announced : Nat}
      (h : Library.addressable ≤ 2 * announced) :
      Complaint check env lib (.encodeAlignment (some indices) announced true)
        ⟨.invalidInput, "pair_count overflows"⟩
  | notEncoded {indices : List UInt64} {announced : Nat} {fault : Fault Empty}
      (hn : 2 * announced < Library.addressable)
      (h : Alignment.encode ((Library.pairUp indices).take announced) = .error fault) :
      Complaint check env lib (.encodeAlignment (some indices) announced true)
        ⟨.ofFault fault, fault.message⟩

theorem CString.text_eq (s : CString) :
    s.text = match textOf (some s) with
      | some t => .ok t
      | none => .error .garbled := by
  unfold text textOf
  rw [Option.bind_some]
  cases Text.decodeUtf8? s.bytes <;> rfl

/-- No fault is reported as a success or as a lack of memory. -/
theorem Status.ofFault_not_mem {ρ : Type} (fault : Fault ρ) :
    ofFault fault ∉ [success, memoryError] := by
  cases fault <;> simp [ofFault]

/-- A sequence fails where its first step fails, or where the second does after it. -/
theorem bind_eq_error_iff {α β : Type} {x : Except Failure α} {next : α → Except Failure β}
    {failure : Failure} :
    x.bind next = .error failure ↔
      x = .error failure ∨ ∃ a, x = .ok a ∧ next a = .error failure := by
  cases x with
  | error f => simp [Except.bind]
  | ok a => simp [Except.bind]

/-- A fault that is reported keeps its wording. -/
theorem mapError_ofFault_iff {α : Type} {x : Except (Fault Empty) α} {failure : Failure} :
    x.mapError Failure.ofFault = .error failure ↔
      ∃ fault, x = .error fault ∧ failure = ⟨.ofFault fault, fault.message⟩ := by
  cases x with
  | error fault => simp [Except.mapError, Failure.ofFault, eq_comm]
  | ok a => simp [Except.mapError]

theorem mapError_ofFault_ok_iff {α : Type} {x : Except (Fault Empty) α} {a : α} :
    x.mapError Failure.ofFault = .ok a ↔ x = .ok a := by
  cases x <;> simp [Except.mapError]

theorem CString.text_error_iff {s : CString} {failure : Failure} :
    s.text = .error failure ↔ Text.decodeUtf8? s.bytes = none ∧ failure = .garbled := by
  rw [s.text_eq, textOf, Option.bind_some]
  cases Text.decodeUtf8? s.bytes <;> simp [eq_comm]

theorem CString.text_ok_iff {s : CString} {t : String} :
    s.text = .ok t ↔ textOf (some s) = some t := by
  rw [s.text_eq]
  cases textOf (some s) <;> simp

section

variable {check : FilterCheck} {env : Environment} {lib : Library} {failure : Failure}

theorem acceptFilterBy_error_iff {filter : Argument} :
    Library.acceptFilterBy check filter = .error failure ↔
      Complaint check env lib (.initLogging filter) failure := by
  have refused (t : String) :
      ((check t).mapError fun why =>
          (⟨.invalidInput, "Invalid log filter '" ++ t ++ "': " ++ why⟩ : Failure)) =
            .error failure ↔
        ∃ why, check t = .error why ∧
          failure = ⟨.invalidInput, "Invalid log filter '" ++ t ++ "': " ++ why⟩ := by
    cases check t with
    | error why => simp [Except.mapError, eq_comm]
    | ok u => simp [Except.mapError]
  cases filter with
  | none =>
    refine (refused Library.defaultFilter).trans ⟨?_, ?_⟩
    · rintro ⟨why, h, rfl⟩
      exact .defaultRefused h
    · rintro ⟨⟩
      exact ⟨_, by assumption, rfl⟩
  | some s =>
    refine bind_eq_error_iff.trans ⟨?_, ?_⟩
    · rintro (h | ⟨t, ht, h⟩)
      · obtain ⟨hs, rfl⟩ := CString.text_error_iff.1 h
        exact .filterGarbled hs
      · obtain ⟨why, hw, rfl⟩ := (refused t).1 h
        exact .filterRefused (CString.text_ok_iff.1 ht) hw
    · rintro ⟨⟩
      · exact .inl (CString.text_error_iff.2 ⟨by assumption, rfl⟩)
      · exact .inr ⟨_, CString.text_ok_iff.2 (by assumption), (refused _).2 ⟨_, by assumption, rfl⟩⟩

theorem loadConfig_garbled_eq {s : CString} (h : Text.decodeUtf8? s.bytes = none) :
    loadConfig env (some s) = .error .garbled := by
  unfold loadConfig
  simp only [CString.text_error_iff.2 ⟨h, rfl⟩]
  rfl

theorem loadConfig_error_iff {config : Argument} :
    loadConfig env config = .error failure ↔ ConfigComplaint env config failure := by
  cases config with
  | none =>
    refine mapError_ofFault_iff.trans ⟨?_, ?_⟩
    · rintro ⟨fault, h, rfl⟩
      exact .absent h
    · rintro (_ | ⟨ht, _⟩ | h | ⟨ht, _, _⟩)
      · cases ht
      · exact ⟨_, h, rfl⟩
      · cases ht
  | some s =>
    constructor
    · intro h
      cases ht : textOf (some s) with
      | none =>
        rw [loadConfig_garbled_eq ht] at h
        cases h
        exact .garbled ht
      | some t =>
        rw [loadConfig_text (CString.text_ok_iff.2 ht)] at h
        obtain hj | ⟨base, hj, ho⟩ := bind_eq_error_iff.1 h
        · obtain ⟨fault, hf, rfl⟩ := mapError_ofFault_iff.1 hj
          exact .refused ht hf
        · obtain ⟨fault, hf, rfl⟩ := mapError_ofFault_iff.1 ho
          exact .overridden ht (mapError_ofFault_ok_iff.1 hj) hf
    · rintro (h | ⟨ht, hf⟩ | _ | ⟨ht, hb, hf⟩)
      · exact loadConfig_garbled_eq h
      · rw [loadConfig_text (CString.text_ok_iff.2 ht)]
        exact bind_eq_error_iff.2 (.inl (mapError_ofFault_iff.2 ⟨_, hf, rfl⟩))
      · rw [loadConfig_text (CString.text_ok_iff.2 ht)]
        exact bind_eq_error_iff.2
          (.inr ⟨_, mapError_ofFault_ok_iff.2 hb, mapError_ofFault_iff.2 ⟨_, hf, rfl⟩⟩)

theorem exportOutput_error_iff (c : Context) (o : DecoderOutput) :
    (c.exportOutput o).1 = .error failure ↔
      ∃ fault, (c.exporter.marshal o c.world).1 = .error fault ∧
        failure = ⟨.ofFault fault, fault.message⟩ := by
  unfold Context.exportOutput
  obtain ⟨result, exporter, world⟩ := c.exporter.marshal o c.world
  cases result with
  | error fault => simp [Failure.ofFault, eq_comm]
  | ok v => simp

theorem exportWith_error_iff {c : Context} {s : CString} :
    (Library.exportWith c s).1 = .error failure ↔ ExportComplaint c s failure := by
  cases ht : textOf (some s) with
  | none =>
    have h : (Library.exportWith c s).1 = .error .garbled := by
      rw [Library.exportWith, CString.text_error_iff.2 ⟨ht, rfl⟩]
    rw [h]
    constructor
    · rintro ⟨⟩
      exact .garbled ht
    · rintro (_ | ⟨ht', _⟩ | ⟨ht', _, _⟩)
      · rfl
      · rw [ht] at ht'; cases ht'
      · rw [ht] at ht'; cases ht'
  | some t =>
    have h : (Library.exportWith c s).1 = (c.exportJson t).1 := by
      simp only [Library.exportWith, CString.text_ok_iff.2 ht]
    rw [h, Context.exportJson, Context.readOutput]
    cases hr : DecoderOutput.reader.whole t with
    | error refusal =>
      constructor
      · rintro ⟨⟩
        exact .refused ht hr
      · rintro (hg | ⟨ht', hr'⟩ | ⟨ht', hr', _⟩)
        · cases ht.symm.trans hg
        · cases ht.symm.trans ht'
          cases hr.symm.trans hr'
          rfl
        · cases ht.symm.trans ht'
          cases hr.symm.trans hr'
    | ok o =>
      refine (exportOutput_error_iff c o).trans ⟨?_, ?_⟩
      · rintro ⟨fault, hf, rfl⟩
        exact .fault ht hr hf
      · rintro (hg | ⟨ht', hr'⟩ | ⟨ht', hr', hf⟩)
        · cases ht.symm.trans hg
        · cases ht.symm.trans ht'
          cases hr.symm.trans hr'
        · cases ht.symm.trans ht'
          cases hr.symm.trans hr'
          exact ⟨_, hf, rfl⟩

theorem exportIn_error_iff {number : Option Nat} {input : Argument} {hasPlace : Bool} :
    (lib.exportIn number input hasPlace).1 = .error failure ↔
      Complaint check env lib (.exportIn number input hasPlace) failure := by
  unfold Library.exportIn
  cases hc : lib.context? number with
  | none =>
    constructor
    · rintro ⟨⟩
      exact .contextAbsent hc
    · intro h
      cases h with
      | contextAbsent => rfl
      | inputAbsent hc' => cases hc.symm.trans hc'
      | placeAbsent hc' => cases hc.symm.trans hc'
      | notExported hc' => cases hc.symm.trans hc'
  | some c =>
    cases input with
    | none =>
      constructor
      · rintro ⟨⟩
        exact .inputAbsent hc
      · intro h
        cases h with
        | contextAbsent hc' => cases hc.symm.trans hc'
        | inputAbsent => rfl
    | some s =>
      cases hasPlace with
      | false =>
        constructor
        · rintro ⟨⟩
          exact .placeAbsent hc
        · intro h
          cases h with
          | contextAbsent hc' => cases hc.symm.trans hc'
          | placeAbsent => rfl
      | true =>
        refine exportWith_error_iff.trans ⟨.notExported hc, ?_⟩
        intro h
        cases h with
        | contextAbsent hc' => cases hc.symm.trans hc'
        | notExported hc' h =>
          cases hc.symm.trans hc'
          exact h

theorem exportOnce_error_iff {input config : Argument} {hasPlace : Bool} :
    Library.exportOnce env input config hasPlace = .error failure ↔
      Complaint check env lib (.exportOnce input config hasPlace) failure := by
  cases input with
  | none =>
    constructor
    · rintro ⟨⟩
      exact .onceInputAbsent
    · rintro ⟨⟩
      rfl
  | some s =>
    cases hasPlace with
    | false =>
      constructor
      · rintro ⟨⟩
        exact .oncePlaceAbsent
      · rintro ⟨⟩
        rfl
    | true =>
      refine bind_eq_error_iff.trans ⟨?_, ?_⟩
      · rintro (h | ⟨loaded, hl, h⟩)
        · exact .onceNotOpened (loadConfig_error_iff.1 h)
        · exact .onceNotExported hl (exportWith_error_iff.1 h)
      · intro h
        cases h with
        | onceNotOpened h => exact .inl (loadConfig_error_iff.2 h)
        | onceNotExported hl h => exact .inr ⟨_, hl, exportWith_error_iff.2 h⟩

theorem announcedPairs_error_iff {indices : Option (List UInt64)} {announced : Nat} :
    Library.announcedPairs indices announced = .error failure ↔ announced ≠ 0 ∧
      (indices = none ∧ failure = .absent "pairs" ∨
        ∃ given, indices = some given ∧ Library.addressable ≤ 2 * announced ∧
          failure = ⟨.invalidInput, "pair_count overflows"⟩) := by
  unfold Library.announcedPairs
  by_cases hn : announced = 0
  · simp [hn]
  · rw [if_neg hn]
    cases indices with
    | none => simp [hn, eq_comm]
    | some given =>
      by_cases hlt : 2 * announced < Library.addressable
      · simp [hlt, Nat.not_le_of_lt hlt]
      · simp [hn, hlt, Nat.le_of_not_lt hlt, eq_comm]

theorem announcedPairs_ok_iff {indices : Option (List UInt64)} {announced : Nat}
    {pairs : List AlignmentPair} :
    Library.announcedPairs indices announced = .ok pairs ↔
      announced = 0 ∧ pairs = [] ∨ announced ≠ 0 ∧ ∃ given, indices = some given ∧
        2 * announced < Library.addressable ∧
          pairs = (Library.pairUp given).take announced := by
  unfold Library.announcedPairs
  by_cases hn : announced = 0
  · simp [hn, eq_comm]
  · rw [if_neg hn]
    cases indices with
    | none => simp [hn]
    | some given =>
      by_cases hlt : 2 * announced < Library.addressable
      · simp [hn, hlt, eq_comm]
      · simp [hn, hlt]

/-- The announced pairs are taken, and then they are flattened. -/
theorem encodeAnnounced_eq (indices : Option (List UInt64)) (announced : Nat) :
    Library.encodeAnnounced indices announced true =
      (Library.announcedPairs indices announced).bind fun pairs =>
        ((Alignment.encode pairs : Except (Fault Empty) Alignment).mapError .ofFault).map
          fun alignment => .allocate alignment.flat := rfl

theorem flattened_error_iff {pairs : List AlignmentPair} :
    ((Alignment.encode pairs : Except (Fault Empty) Alignment).mapError .ofFault).map
        (fun alignment => IntArray.allocate alignment.flat) = .error failure ↔
      ∃ fault : Fault Empty, Alignment.encode pairs = .error fault ∧
        failure = ⟨.ofFault fault, fault.message⟩ := by
  rw [← mapError_ofFault_iff]
  cases (Alignment.encode pairs : Except (Fault Empty) Alignment) <;>
    simp [Except.mapError, Except.map]

theorem encodeAnnounced_error_iff {indices : Option (List UInt64)} {announced : Nat}
    {hasPlace : Bool} :
    Library.encodeAnnounced indices announced hasPlace = .error failure ↔
      Complaint check env lib (.encodeAlignment indices announced hasPlace) failure := by
  cases hasPlace with
  | false =>
    constructor
    · rintro ⟨⟩
      exact .arrayPlaceAbsent
    · rintro ⟨⟩
      rfl
  | true =>
    rw [encodeAnnounced_eq, bind_eq_error_iff]
    simp only [announcedPairs_error_iff, announcedPairs_ok_iff, flattened_error_iff]
    constructor
    · rintro (⟨hn, ⟨rfl, rfl⟩ | ⟨given, rfl, h, rfl⟩⟩ | ⟨pairs, hpairs, fault, h, rfl⟩)
      · exact .indicesAbsent hn
      · exact .tooManyPairs h
      · obtain ⟨-, rfl⟩ | ⟨-, given, rfl, hlt, rfl⟩ := hpairs
        · cases h
        · exact .notEncoded hlt h
    · intro h
      cases h with
      | indicesAbsent hn => exact .inl ⟨hn, .inl ⟨rfl, rfl⟩⟩
      | @tooManyPairs given _ h =>
        have hn : announced ≠ 0 := by
          rintro rfl
          simp [Library.addressable] at h
        exact .inl ⟨hn, .inr ⟨given, rfl, h, rfl⟩⟩
      | @notEncoded given _ fault hlt h =>
        have hn : announced ≠ 0 := by
          rintro rfl
          rw [List.take_zero] at h
          cases h
        exact .inr ⟨_, .inr ⟨hn, given, rfl, hlt, rfl⟩, fault, h, rfl⟩

/-- A call fails with one complaint only. -/
theorem Complaint.unique {call : Call} {other : Failure} (h : Complaint check env lib call failure)
    (h' : Complaint check env lib call other) : failure = other := by
  have same {α : Type} {outcome : Except Failure α} (h : outcome = .error failure)
      (h' : outcome = .error other) : failure = other := by
    rw [h] at h'
    exact Except.error.inj h'
  cases call with
  | initLogging filter => exact same (acceptFilterBy_error_iff.2 h) (acceptFilterBy_error_iff.2 h')
  | openContext config =>
    cases h with
    | notOpened h =>
      cases h' with
      | notOpened h' => exact same (loadConfig_error_iff.2 h) (loadConfig_error_iff.2 h')
  | exportIn number input hasPlace => exact same (exportIn_error_iff.2 h) (exportIn_error_iff.2 h')
  | exportOnce input config hasPlace =>
    exact same (exportOnce_error_iff.2 h) (exportOnce_error_iff.2 h')
  | encodeAlignment indices announced hasPlace =>
    exact same (encodeAnnounced_error_iff.2 h) (encodeAnnounced_error_iff.2 h')
  | _ => cases h

theorem ConfigComplaint.status_not_mem {config : Argument}
    (h : ConfigComplaint env config failure) : failure.status ∉ [.success, .memoryError] := by
  cases h with
  | garbled => simp [Failure.garbled]
  | refused _ _ => exact Status.ofFault_not_mem _
  | absent _ => exact Status.ofFault_not_mem _
  | overridden _ _ _ => exact Status.ofFault_not_mem _

theorem ExportComplaint.status_not_mem {c : Context} {s : CString}
    (h : ExportComplaint c s failure) : failure.status ∉ [.success, .memoryError] := by
  cases h with
  | garbled => simp [Failure.garbled]
  | refused _ _ => simp
  | fault _ _ _ => exact Status.ofFault_not_mem _

/-- No complaint comes with the status of success or with that of a lack of memory. -/
theorem Complaint.status_not_mem {call : Call} (h : Complaint check env lib call failure) :
    failure.status ∉ [.success, .memoryError] := by
  cases h with
  | notOpened h => exact h.status_not_mem
  | notExported _ h => exact h.status_not_mem
  | onceNotOpened h => exact h.status_not_mem
  | onceNotExported _ h => exact h.status_not_mem
  | notEncoded _ _ => exact Status.ofFault_not_mem _
  | _ => simp [Failure.garbled]

theorem Complaint.status_ne_success {call : Call} (h : Complaint check env lib call failure) :
    failure.status ≠ .success :=
  fun hs => h.status_not_mem (by simp [hs])

end

end DecoderExport.Boundary
