import DecoderExport.Proofs.DefaultClasses
import DecoderExport.Proofs.Session

/-!
# Nothing is lost in an export

With the default class names a call succeeds exactly if every index fits, whatever was exported
before. The translation then carries the whole output, read through the fields of the objects: each
candidate at its place, scores with their bits, and an array that decodes to the pairs.
-/

namespace DecoderExport

/-- An object is the hypothesis for a candidate. -/
structure Value.CarriesCandidate (v : Value) (d : Candidate) : Prop where
  cls : v.class? = some defaultHypothesisClass
  text : v.field? "text" = some (.text d.text)
  score : v.field? "totalScore" = some (.float d.score)
  features : v.field? "featureValues" = some (.text d.features)

/-- An object is the translation for an output. -/
structure Value.Carries (v : Value) (o : DecoderOutput) (includeSource : Bool) : Prop where
  cls : v.class? = some defaultTranslationClass
  text : v.field? "text" = some (.text o.text)
  hypotheses : ∃ i elements,
    v.field? "hypotheses" = some (.array i defaultHypothesisClass elements) ∧
    elements.length = o.nbest.length ∧
    ∀ (k : Nat) (d : Candidate), o.nbest[k]? = some d →
      ∃ x, elements[k]? = some x ∧ x.CarriesCandidate d
  alignment : ∃ i flat alignment, v.field? "alignment" = some (.ints i flat) ∧
    flat.length = 2 * o.alignment.length ∧
    (Alignment.ofFlat flat : Except (Fault Empty) Alignment) = .ok alignment ∧
    alignment.decode = o.alignment
  source : v.field? "source" =
    some (if includeSource then o.source.elim .null .text else .null)

theorem Value.carriesCandidate (stamp : Nat) (d : Candidate) :
    (Value.ofCandidate stamp d).CarriesCandidate d :=
  ⟨rfl, rfl, rfl, rfl⟩

theorem Value.carries_exported {o : DecoderOutput} (hfits : ∀ p ∈ o.alignment, p.Fits)
    (stamp : Nat) (includeSource : Bool) :
    (Value.exported stamp o (if includeSource then o.source else none)
      (o.alignment.flatMap AlignmentPair.entries)).Carries o includeSource where
  cls := rfl
  text := rfl
  hypotheses := by
    refine ⟨_, _, rfl, by simp, ?_⟩
    intro k d hd
    refine ⟨_, ?_, carriesCandidate (stamp + k) d⟩
    rw [List.getElem?_map, List.getElem?_zipIdx, hd]
    rfl
  alignment := by
    obtain ⟨alignment, -, hflat⟩ := Alignment.encode_ok (ρ := Empty) hfits
    refine ⟨_, _, alignment, rfl, Alignment.length_entries _, ?_, ?_⟩
    · rw [← hflat, Alignment.ofFlat_flat]
    · rw [Alignment.decode, hflat, Alignment.pairsOf_entries hfits]
  source := by
    cases includeSource
    · rfl
    · cases o.source <;> rfl

namespace Session

/-- An exporter with the default names, in any state that calls on default models have left it in,
exports exactly the outputs whose indices fit, and exports them whole. -/
theorem marshal_lossless (includeSource : Bool) (minted : Nat)
    (history : List (Nat × DecoderOutput)) (model : Nat) (o : DecoderOutput) :
    let s := (start { includeSource } (fun _ => .withDefaultClasses) minted).run
      (history.map fun (model, o) => .marshal model o)
    ((∃ v, (s.call model o).1 = .ok v) ↔
        ∀ p ∈ o.alignment, p.source.toNat ≤ maxIndex ∧ p.target.toNat ≤ maxIndex) ∧
      ∀ v, (s.call model o).1 = .ok v → v.Carries o includeSource := by
  intro s
  have hs : Uniform { includeSource } .withDefaultClasses s :=
    (uniform_start _ _ minted).run_marshals history
  rw [hs.fst_call]
  by_cases hfits : ∀ p ∈ o.alignment, p.Fits
  · rw [Exporter.outcome_default hs.serves rfl rfl hfits]
    refine ⟨⟨fun _ => hfits, fun _ => ⟨_, rfl⟩⟩, ?_⟩
    intro v hv
    rw [← Except.ok.inj hv]
    exact Value.carries_exported hfits _ _
  · obtain ⟨f, ha⟩ := Alignment.encode_error_of_not_fits (ρ := Empty) hfits
    have hf : s.exporter.outcome o .withDefaultClasses s.minted = .error f := by
      simp only [Exporter.outcome, ha]
    rw [hf]
    exact ⟨⟨by simp, fun h => absurd h hfits⟩, by simp⟩

end Session

end DecoderExport
