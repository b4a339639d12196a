import DecoderExport.Objects.Rule
import DecoderExport.Proofs.Construction

/-!
# Values apart from identity

`Value.unstamped` forgets which object a value is, and keeps classes, names, texts, integers and the
bits of floats. Two values are alike when nothing else tells them apart. A constructor builds alike
objects from alike arguments, provided that its validator judges arguments by value.
-/

namespace DecoderExport

namespace Value

mutual

/-- A value with all its stamps cleared. -/
def unstamped : Value → Value
  | ints _ values => ints 0 values
  | array _ cls elements => array 0 cls (unstampedElements elements)
  | object _ cls fields => object 0 cls (unstampedFields fields)
  | null => null
  | text s => text s
  | float x => float x

def unstampedElements : List Value → List Value
  | [] => []
  | x :: xs => x.unstamped :: unstampedElements xs

def unstampedFields : List (String × Value) → List (String × Value)
  | [] => []
  | (n, x) :: fs => (n, x.unstamped) :: unstampedFields fs

end

/-- Two values differ at most in which objects they are. -/
def Alike (v w : Value) : Prop := v.unstamped = w.unstamped

theorem unstampedElements_eq_map (vs : List Value) :
    unstampedElements vs = vs.map unstamped := by
  induction vs with
  | nil => rfl
  | cons v vs ih => rw [unstampedElements, ih, List.map_cons]

theorem fits_unstamped (v : Value) (kind : ParamKind) : v.unstamped.fits kind = v.fits kind := by
  cases v <;> cases kind <;> rfl

theorem class?_unstamped (v : Value) : v.unstamped.class? = v.class? := by
  cases v <;> rfl

theorem unstampedFields_assign (name : String) (v : Value) (fields : List (String × Value)) :
    unstampedFields (assign name v fields) = assign name v.unstamped (unstampedFields fields) := by
  induction fields with
  | nil => rfl
  | cons field fields ih =>
    obtain ⟨n, x⟩ := field
    simp only [assign, unstampedFields]
    by_cases hn : n = name
    · rw [if_pos hn, if_pos hn, unstampedFields]
    · rw [if_neg hn, if_neg hn, unstampedFields, ih]

theorem unstampedFields_initialFields (declared assigned : List String) (args : List Value) :
    unstampedFields (initialFields declared assigned args) =
      initialFields declared assigned (args.map unstamped) := by
  let put (fields : List (String × Value)) (entry : String × Value) :=
    assign entry.1 entry.2 fields
  have hfold (fields : List (String × Value)) :
      unstampedFields ((assigned.zip args).foldl put fields) =
        (assigned.zip (args.map unstamped)).foldl put (unstampedFields fields) := by
    induction assigned generalizing args fields with
    | nil => rfl
    | cons name assigned ih =>
      cases args with
      | nil => rfl
      | cons v args =>
        simp only [List.zip_cons_cons, List.map_cons, List.foldl_cons, ih, put,
          unstampedFields_assign]
  have hnull : unstampedFields (declared.map fun name => (name, null)) =
      declared.map fun name => (name, null) := by
    induction declared with
    | nil => rfl
    | cons name declared ih => simp only [List.map_cons, unstampedFields, unstamped, ih]
  have hinitial := hfold (declared.map fun name => (name, null))
  rw [hnull] at hinitial
  exact hinitial

end Value

/-- Two replies are the same fault, or values that are alike. -/
def AlikeReplies (r r' : Except (Fault Empty) Value) : Prop :=
  r.map Value.unstamped = r'.map Value.unstamped

theorem cases_of_map_eq_map {ε α β : Type} {g : α → β} {r r' : Except ε α}
    (h : r.map g = r'.map g) :
    (∃ f, r = .error f ∧ r' = .error f) ∨ ∃ a a', r = .ok a ∧ r' = .ok a' ∧ g a = g a' := by
  cases r with
  | error f =>
    cases r' with
    | error f' => exact .inl ⟨f, rfl, by rw [Except.error.inj h]⟩
    | ok a' => cases h
  | ok a =>
    cases r' with
    | error f' => cases h
    | ok a' => exact .inr ⟨a, a', rfl, rfl, Except.ok.inj h⟩

/-- A validator says the same of arguments that are alike. -/
def Validator.ByValue (validator : Validator) : Prop :=
  ∀ args args' : List Value, args.map Value.unstamped = args'.map Value.unstamped →
    validator args = validator args'

/-- A constructor judges its arguments by value. -/
def Constructor.ByValue (c : Constructor) : Prop :=
  ∀ validator, c.validator = some validator → validator.ByValue

/-- All constructors in a registry judge their arguments by value. -/
def ObjectModel.ByValue (m : ObjectModel) : Prop :=
  ∀ cls ∈ m.classes, ∀ c ∈ cls.constructors, c.ByValue

theorem Rule.holds_unstamped (rule : Rule) (v : Value) : rule.holds v.unstamped = rule.holds v := by
  cases rule <;> cases v <;> try rfl
  case elementsNonempty.array stamp cls elements => cases elements <;> rfl

theorem Rule.byValue_validator (rule : Rule) (arg : Nat) (message : String) :
    Validator.ByValue (rule.validator arg message) := by
  intro args args' h
  have hany (args : List Value) :
      (args[arg]?).any rule.holds = ((args.map Value.unstamped)[arg]?).any rule.holds := by
    rw [List.getElem?_map]
    cases args[arg]? with
    | none => rfl
    | some v => simp only [Option.map_some, Option.any_some, rule.holds_unstamped]
  simp only [Rule.validator, hany args, hany args', h]

theorem firstMisfit_unstamped (index : Nat) (args : List Value) (kinds : List ParamKind) :
    firstMisfit index (args.map Value.unstamped) kinds = firstMisfit index args kinds := by
  induction args generalizing index kinds with
  | nil => rfl
  | cons v args ih =>
    cases kinds with
    | nil => rfl
    | cons kind kinds => simp only [List.map_cons, firstMisfit, Value.fits_unstamped, ih]

theorem firstForeign?_unstamped (cls : String) (elements : List Value) :
    firstForeign? cls (elements.map Value.unstamped) = firstForeign? cls elements := by
  simp only [firstForeign?, List.findIdx?_map, Function.comp_def, Value.class?_unstamped]

/-- Counts and kinds do not depend on identity, so the validator is all that might. -/
theorem Constructor.ByValue.objection_eq {c : Constructor} (hc : c.ByValue)
    {args args' : List Value} (h : args.map Value.unstamped = args'.map Value.unstamped) :
    c.objection? args = c.objection? args' := by
  have hlength : args.length = args'.length := by
    simpa only [List.length_map] using congrArg List.length h
  have hmisfit :
      firstMisfit 0 args c.signature.params = firstMisfit 0 args' c.signature.params := by
    rw [← firstMisfit_unstamped, h, firstMisfit_unstamped]
  unfold objection?
  rw [hlength, hmisfit]
  cases hv : c.validator with
  | none => rfl
  | some validator => simp only [hc validator hv args args' h]

namespace ClassDef

variable {cls : ClassDef} {c : Constructor}

theorem make_alike {args args' : List Value}
    (h : args.map Value.unstamped = args'.map Value.unstamped)
    (ho : c.objection? args = c.objection? args') (stamp stamp' : Nat) :
    AlikeReplies (cls.make c stamp args) (cls.make c stamp' args') := by
  unfold make AlikeReplies
  rw [ho]
  cases c.objection? args' with
  | some why => rfl
  | none =>
    simp only [Except.map, Value.unstamped, Value.unstampedFields_initialFields, h]

theorem gather_alike {elements elements' : List Value}
    (h : elements.map Value.unstamped = elements'.map Value.unstamped) (stamp stamp' : Nat) :
    AlikeReplies (cls.gather stamp elements) (cls.gather stamp' elements') := by
  unfold gather AlikeReplies
  rw [← firstForeign?_unstamped, h, firstForeign?_unstamped]
  cases firstForeign? cls.name elements' with
  | some index => rfl
  | none => simp only [Except.map, Value.unstamped, Value.unstampedElements_eq_map, h]

theorem makeAll_alike (cls : ClassDef) (c : Constructor) (argss : List (List Value))
    (stamp stamp' : Nat) :
    (cls.makeAll c stamp argss).map (·.map Value.unstamped) =
      (cls.makeAll c stamp' argss).map (·.map Value.unstamped) := by
  induction argss generalizing stamp stamp' with
  | nil => rfl
  | cons args rest ih =>
    have hcons (v : Value) (r : Except (Fault Empty) (List Value)) :
        (r.map (v :: ·)).map (·.map Value.unstamped) =
          (r.map (·.map Value.unstamped)).map (v.unstamped :: ·) := by
      cases r <;> rfl
    simp only [makeAll, make]
    cases c.objection? args with
    | some why => rfl
    | none =>
      simp only [hcons]
      rw [ih (stamp + 1) (stamp' + 1)]
      simp only [Value.unstamped]

end ClassDef

end DecoderExport
