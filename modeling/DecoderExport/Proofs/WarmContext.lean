import DecoderExport.Proofs.Contexts

/-!
# A warm context answers like a new one

Calls may come in any order: contexts are opened, asked and closed in between, inputs may be bad,
and the environment may change. A context that stays open keeps its number and serves the
configuration that was loaded when it was opened, so what it answers is what one call with a
context of its own would have answered then.
-/

namespace DecoderExport.Boundary

namespace Context.Serves

variable {config : Config} {c d : Context}

theorem exportJson_eq (hc : c.Serves config) (hd : d.Serves config) (input : String) :
    (c.exportJson input).1 = (d.exportJson input).1 := by
  unfold Context.exportJson
  cases Context.readOutput input with
  | error failure => rfl
  | ok o => exact hc.exportOutput_eq hd o

theorem exportWith_eq (hc : c.Serves config) (hd : d.Serves config) (input : CString) :
    (Library.exportWith c input).1 = (Library.exportWith d input).1 := by
  unfold Library.exportWith
  cases input.text with
  | error failure => rfl
  | ok text => simp only [hc.exportJson_eq hd text]

theorem exportWith (hc : c.Serves config) (input : CString) :
    (Library.exportWith c input).2.Serves config := by
  unfold Library.exportWith
  cases input.text with
  | error failure => exact hc
  | ok text => exact hc.exportJson text

end Context.Serves

namespace Library

/-- The library after some calls, each made in an environment of its own. -/
def run (lib : Library) (calls : List (Environment × Call)) : Library :=
  calls.foldl (fun lib (env, call) => (lib.step env call).2) lib

theorem run_append (lib : Library) (before after : List (Environment × Call)) :
    lib.run (before ++ after) = (lib.run before).run after :=
  List.foldl_append

theorem settle_contexts {α : Type} (lib : Library) (outcome : Except Failure α) :
    (lib.settle outcome).2.2.contexts = lib.contexts ∧
      (lib.settle outcome).2.2.next = lib.next := by
  cases outcome <;> exact ⟨rfl, rfl⟩

/-- What an export answers, and the last error that it leaves, are up to its outcome alone. -/
theorem deliver_eq (outcome : Except Failure String) :
    ∃ answer last, ∀ lib : Library,
      lib.deliver outcome = (answer, { lib with lastError := last }) := by
  cases outcome with
  | error failure => exact ⟨_, _, fun _ => rfl⟩
  | ok text =>
    cases h : CString.ofText? text with
    | none => exact ⟨_, _, fun _ => by simp only [deliver, writeOutput, h, settle]; rfl⟩
    | some out => exact ⟨_, _, fun _ => by simp only [deliver, writeOutput, h, settle]; rfl⟩

/-- Storing a context changes what is found under its own number only. -/
theorem context?_update (lib : Library) (number : Option Nat) (c : Context) (n : Nat) :
    (lib.update number c).context? (some n) =
      if some n = number then (lib.context? (some n)).map fun _ => c
      else lib.context? (some n) := by
  simp only [context?, update, Option.bind_some]
  induction lib.contexts with
  | nil => simp
  | cons entry entries ih =>
    obtain ⟨k, old⟩ := entry
    simp only [List.map_cons, List.lookup_cons]
    by_cases hk : n = k
    · subst hk
      simp only [beq_self_eq_true]
      split <;> rfl
    · have hne : (n == k) = false := by simpa using hk
      simp only [hne, ih]

/-- Closing a context changes what is found under its own number only. -/
theorem context?_closeContext (lib : Library) (env : Environment) (number : Option Nat) (n : Nat) :
    (lib.step env (.closeContext number)).2.context? (some n) =
      if some n = number then none else lib.context? (some n) := by
  simp only [context?, step, Option.bind_some]
  induction lib.contexts with
  | nil => simp
  | cons entry entries ih =>
    obtain ⟨k, old⟩ := entry
    by_cases hk : n = k
    · subst hk
      by_cases hn : some n = number
      · rw [if_pos hn] at ih ⊢
        simpa [hn] using ih
      · simp [hn]
    · have hne : (n == k) = false := by simpa using hk
      by_cases hn : some k = number
      · simpa [hn, List.lookup_cons, hne] using ih
      · simpa [hn, List.lookup_cons, hne] using ih

/-- Under a number there is an open context for a configuration. -/
structure Serves (config : Config) (n : Nat) (lib : Library) : Prop where
  /-- The number is taken, so no later context gets it. -/
  issued : n < lib.next
  context : ∃ c, lib.context? (some n) = some c ∧ c.Serves config

namespace Serves

variable {config : Config} {n : Nat} {lib lib' : Library}

/-- Only the contexts and the next number matter. -/
theorem congr (h : lib.Serves config n) (hc : lib'.contexts = lib.contexts)
    (hn : lib'.next = lib.next) : lib'.Serves config n := by
  obtain ⟨hi, c, hlookup, hserves⟩ := h
  refine ⟨by rw [hn]; exact hi, c, ?_, hserves⟩
  rw [← hlookup, context?, context?, hc]

theorem settle {α : Type} (h : lib.Serves config n) (outcome : Except Failure α) :
    (lib.settle outcome).2.2.Serves config n :=
  h.congr (lib.settle_contexts outcome).1 (lib.settle_contexts outcome).2

theorem deliver (h : lib.Serves config n) (outcome : Except Failure String) :
    (lib.deliver outcome).2.Serves config n := by
  obtain ⟨answer, last, heq⟩ := deliver_eq outcome
  rw [heq]
  exact h.congr rfl rfl

theorem exportIn (h : lib.Serves config n) (number : Option Nat) (input : Argument)
    (hasPlace : Bool) : (lib.exportIn number input hasPlace).2.Serves config n := by
  unfold Library.exportIn
  split
  · exact h
  · exact h
  · rename_i c' text hc'
    split
    · obtain ⟨hi, c, hlookup, hserves⟩ := h
      refine ⟨hi, ?_⟩
      rw [context?_update, hlookup]
      split
      · rename_i hnumber
        subst hnumber
        rw [hlookup, Option.some.injEq] at hc'
        subst hc'
        exact ⟨_, rfl, hserves.exportWith text⟩
      · exact ⟨c, rfl, hserves⟩
    · exact h

/-- Every call but the one that closes it leaves an open context in place. -/
theorem step (h : lib.Serves config n) (env : Environment) {call : Call}
    (hcall : call ≠ .closeContext (some n)) : (lib.step env call).2.Serves config n := by
  cases call with
  | version => exact h
  | lastError => exact h
  | clearError => exact h.congr rfl rfl
  | initLogging filter => exact h.settle _
  | openContext argument =>
    have hs := h.settle (loadConfig env argument)
    simp only [Library.step]
    cases (lib.settle (loadConfig env argument)).2.1 with
    | none => exact hs
    | some opened =>
      obtain ⟨hi, c, hlookup, hserves⟩ := hs
      refine ⟨Nat.lt_succ_of_lt hi, c, ?_, hserves⟩
      rw [← hlookup]
      have hne : (n == (lib.settle (loadConfig env argument)).2.2.next) = false := by
        simpa using Nat.ne_of_lt hi
      simp only [context?, Option.bind_some, List.lookup_cons, hne]
  | closeContext number =>
    obtain ⟨hi, c, hlookup, hserves⟩ := h
    refine ⟨hi, c, ?_, hserves⟩
    rw [context?_closeContext, hlookup, if_neg fun hn => hcall (by rw [hn])]
  | exportIn number input hasPlace => exact (h.exportIn number input hasPlace).deliver _
  | exportOnce input argument hasPlace => exact h.deliver _
  | encodeAlignment indices announced hasPlace => exact h.settle _
  | releaseText out => exact h
  | releaseArray values => exact h

theorem run (h : lib.Serves config n) {calls : List (Environment × Call)}
    (hcalls : ∀ p ∈ calls, p.2 ≠ .closeContext (some n)) : (lib.run calls).Serves config n := by
  induction calls generalizing lib with
  | nil => exact h
  | cons p calls ih =>
    obtain ⟨hp, hr⟩ := List.forall_mem_cons.1 hcalls
    exact ih (h.step p.1 hp) hr

end Serves

/-- A call that opens a context has loaded the configuration that the context serves. -/
theorem serves_of_opened {lib : Library} {env : Environment} {argument : Argument} {n : Nat}
    (h : (lib.step env (.openContext argument)).1 = .context (some n)) :
    ∃ config, loadConfig env argument = .ok config ∧
      (lib.step env (.openContext argument)).2.Serves config n := by
  cases hl : loadConfig env argument with
  | error failure => simp [step, hl, settle] at h
  | ok config =>
    simp only [step, hl, settle, Answer.context.injEq, Option.some.injEq] at h
    subst h
    refine ⟨config, rfl, ?_⟩
    simp only [step, hl, settle]
    exact ⟨Nat.lt_succ_self _, _, by simp [context?], .ofConfig config⟩

/-- The context that was opened under a number gives the same answer, and leaves the same last
error, as a single call in the environment that held when it was opened. -/
theorem warm_context_eq_one_shot (before after : List (Environment × Call))
    (opening now : Environment) (config : Argument) (n : Nat) (input : CString) (other : Library)
    (opened : ((fresh.run before).step opening (.openContext config)).1 = .context (some n))
    (kept : ∀ p ∈ after, p.2 ≠ .closeContext (some n)) :
    let lib := fresh.run (before ++ (opening, .openContext config) :: after)
    let warm := lib.step now (.exportIn (some n) (some input) true)
    let alone := other.step opening (.exportOnce (some input) config true)
    warm.1 = alone.1 ∧ warm.2.lastError = alone.2.lastError := by
  intro lib warm alone
  obtain ⟨loaded, hload, hserves⟩ := serves_of_opened opened
  have hlib : lib.Serves loaded n := by
    simp only [lib]
    rw [run_append]
    exact hserves.run kept
  obtain ⟨-, c, hlookup, hc⟩ := hlib
  have hone : exportOnce opening (some input) config true =
      (exportWith (.ofConfig loaded) input).1 := by
    simp only [exportOnce, if_true, hload]
    rfl
  have hwarm : lib.exportIn (some n) (some input) true =
      ((exportWith c input).1, lib.update (some n) (exportWith c input).2) := by
    simp only [exportIn, hlookup, if_true]
  simp only [warm, alone, step, hwarm, hone, hc.exportWith_eq (.ofConfig loaded) input]
  obtain ⟨answer, last, heq⟩ := deliver_eq (exportWith (.ofConfig loaded) input).1
  rw [heq, heq]
  exact ⟨rfl, rfl⟩

/-- Between opening and asking, the context has refused an input and served one, another context
has been closed, and the flag has been taken out of the environment. -/
theorem warm_context_eq_one_shot_later :
    let input := CString.cut (Text.encodeUtf8 "\x7b\"text\":\"a\",\"source\":\"b\"\x7d")
    let flagged : Environment := [(includeSourceVariable, [48])]
    let before : List (Environment × Call) := [([], .openContext none)]
    let after : List (Environment × Call) := [
      (flagged, .exportIn (some 1) (some (.cut [255])) true),
      ([], .closeContext (some 0)),
      ([], .exportIn (some 1) (some input) true)]
    ((fresh.run before).step flagged (.openContext none)).1 = .context (some 1) ∧
      (∀ p ∈ after, p.2 ≠ .closeContext (some 1)) ∧
      let lib := fresh.run (before ++ (flagged, .openContext none) :: after)
      let warm := lib.step [] (.exportIn (some 1) (some input) true)
      let alone := fresh.step flagged (.exportOnce (some input) none true)
      warm.1 = alone.1 ∧ warm.2.lastError = alone.2.lastError := by
  intro input flagged before after
  have opened : ((fresh.run [([], .openContext none)]).step [(includeSourceVariable, [48])]
      (.openContext none)).1 = .context (some 1) := by
    rfl
  have kept : ∀ p ∈ after, p.2 ≠ .closeContext (some 1) := by simp [after]
  exact ⟨opened, kept,
    warm_context_eq_one_shot before after flagged [] none 1 input fresh opened kept⟩

end Library

end DecoderExport.Boundary
