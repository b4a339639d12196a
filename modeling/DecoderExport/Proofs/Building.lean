import DecoderExport.Proofs.Complaint

/-!
# What calls build

An export that succeeds has built a value, and its text is the JSON text of that value. So a call
makes a text exactly if it builds something, as it fails exactly if there is a complaint.
-/

namespace DecoderExport.Boundary

/-- A context builds a value for an input: the input is a text, the text spells a decoder output,
and the exporter makes a value of it. -/
def Context.Builds (c : Context) (s : CString) (v : Value) : Prop :=
  ∃ t o, textOf (some s) = some t ∧ DecoderOutput.reader.whole t = .ok o ∧
    (c.exporter.marshal o c.world).1 = .ok v

/-- The value that a call builds. Only an export builds one, and only where its arguments are in
order. -/
inductive Builds (env : Environment) (lib : Library) : Call → Value → Prop
  | within {number : Option Nat} {c : Context} {s : CString} {v : Value}
      (hc : lib.context? number = some c) (h : c.Builds s v) :
      Builds env lib (.exportIn number (some s) true) v
  | once {s : CString} {config : Argument} {loaded : Config} {v : Value}
      (hl : loadConfig env config = .ok loaded) (h : (Context.ofConfig loaded).Builds s v) :
      Builds env lib (.exportOnce (some s) config true) v

theorem exportOutput_ok_iff {c : Context} {o : DecoderOutput} {text : String} :
    (c.exportOutput o).1 = .ok text ↔
      ∃ v, (c.exporter.marshal o c.world).1 = .ok v ∧ text = v.toJson.render := by
  unfold Context.exportOutput
  obtain ⟨result, exporter, world⟩ := c.exporter.marshal o c.world
  cases result with
  | error fault => simp
  | ok v => simp [eq_comm]

theorem exportWith_ok_iff {c : Context} {s : CString} {text : String} :
    (Library.exportWith c s).1 = .ok text ↔ ∃ v, c.Builds s v ∧ text = v.toJson.render := by
  unfold Library.exportWith Context.Builds
  rw [s.text_eq]
  cases textOf (some s) with
  | none => simp
  | some t =>
    simp only [Context.exportJson, Context.readOutput]
    cases hr : DecoderOutput.reader.whole t with
    | error refusal => simp [hr]
    | ok o => simp [exportOutput_ok_iff, hr]

section

variable {env : Environment} {lib : Library} {text : String}

theorem exportIn_ok_iff {number : Option Nat} {input : Argument} {hasPlace : Bool} :
    (lib.exportIn number input hasPlace).1 = .ok text ↔
      ∃ v, Builds env lib (.exportIn number input hasPlace) v ∧ text = v.toJson.render := by
  constructor
  · intro h
    unfold Library.exportIn at h
    split at h
    · cases h
    · cases h
    · rename_i c s hc
      split at h
      · rename_i hplace
        obtain ⟨v, hv, hout⟩ := exportWith_ok_iff.1 h
        exact ⟨v, hplace ▸ .within hc hv, hout⟩
      · cases h
  · rintro ⟨v, hb, hout⟩
    cases hb with
    | within hc hv =>
      simp only [Library.exportIn, hc, if_true]
      exact exportWith_ok_iff.2 ⟨v, hv, hout⟩

theorem exportOnce_ok_iff {input config : Argument} {hasPlace : Bool} :
    Library.exportOnce env input config hasPlace = .ok text ↔
      ∃ v, Builds env lib (.exportOnce input config hasPlace) v ∧
        text = v.toJson.render := by
  constructor
  · intro h
    unfold Library.exportOnce at h
    split at h
    · cases h
    · rename_i s
      split at h
      · rename_i hplace
        cases hl : loadConfig env config with
        | error failure =>
          rw [hl] at h
          cases h
        | ok loaded =>
          rw [hl] at h
          obtain ⟨v, hv, hout⟩ := exportWith_ok_iff.1 h
          exact ⟨v, hplace ▸ .once hl hv, hout⟩
      · cases h
  · rintro ⟨v, hb, hout⟩
    cases hb with
    | once hl hv =>
      simp only [Library.exportOnce, if_true, hl]
      exact exportWith_ok_iff.2 ⟨v, hv, hout⟩

end

end DecoderExport.Boundary
