import DecoderExport.Boundary.Library
import DecoderExport.Proofs.ControlFree
import DecoderExport.Proofs.DefaultClasses

/-!
# What a context answers

A context keeps the default classes and an exporter for one configuration. Calls only change what
the exporter has found, so `Context.Serves` holds of a context from its first call to its last, and
it determines every answer: a text, an index that does not fit, or a class that is not found.
-/

namespace DecoderExport.Boundary

/-- A context for a configuration, whatever it has been asked before. -/
structure Context.Serves (config : Config) (c : Context) : Prop where
  classes : c.world.model.classes = ObjectModel.withDefaultClasses.classes
  exporter : c.exporter.Serves config .withDefaultClasses

namespace Context.Serves

variable {config : Config} {c d : Context}

theorem ofConfig (config : Config) : (Context.ofConfig config).Serves config :=
  ⟨rfl, .ofConfig config _⟩

theorem exportOutput (hc : c.Serves config) (o : DecoderOutput) :
    (c.exportOutput o).2.Serves config := by
  obtain ⟨n, h⟩ := c.exporter.marshal_eq o c.world
  have hexporter := hc.exporter.afterwards o c.world.minted
  rw [← Exporter.afterwards_congr _ _ hc.classes] at hexporter
  have hclasses : (c.exporter.consulted o c.world.model c.world.minted).classes =
      ObjectModel.withDefaultClasses.classes := by
    rw [Exporter.classes_consulted, hc.classes]
  simp only [Context.exportOutput, h]
  cases c.exporter.outcome o c.world.model c.world.minted with
  | error f => exact ⟨hclasses, hexporter⟩
  | ok v => exact ⟨hclasses, hexporter⟩

theorem exportJson (hc : c.Serves config) (input : String) :
    (c.exportJson input).2.Serves config := by
  unfold Context.exportJson
  split
  · exact hc
  · exact hc.exportOutput _

/-- The answer is the outcome of the exporter, rendered. -/
theorem fst_exportOutput (hc : c.Serves config) (o : DecoderOutput) :
    (c.exportOutput o).1 =
      match c.exporter.outcome o .withDefaultClasses c.world.minted with
      | .ok v => .ok v.toJson.render
      | .error f => .error (.ofFault f) := by
  obtain ⟨n, h⟩ := c.exporter.marshal_eq o c.world
  rw [← Exporter.outcome_congr _ _ hc.classes]
  simp only [Context.exportOutput, h]
  cases c.exporter.outcome o c.world.model c.world.minted <;> rfl

theorem exportOutput_of_error (hc : c.Serves config) {o : DecoderOutput} {f : Fault Empty}
    (ha : Alignment.encode o.alignment = .error f) :
    (c.exportOutput o).1 = .error (.ofFault f) := by
  rw [hc.fst_exportOutput]
  simp only [Exporter.outcome, ha]

theorem exportOutput_of_default (hc : c.Serves config)
    (hh : config.hypothesisClass = defaultHypothesisClass)
    (ht : config.translationClass = defaultTranslationClass) {o : DecoderOutput}
    (hfits : ∀ p ∈ o.alignment, p.Fits) :
    (c.exportOutput o).1 = .ok (o.exported config.includeSource).render := by
  rw [hc.fst_exportOutput, Exporter.outcome_default hc.exporter hh ht hfits]
  simp only [toJson_exported hfits]

end Context.Serves

/-- A name that is not the default one is reported in the same way by every context for the
configuration. -/
theorem exportOutput_of_other {config : Config}
    (hn : ¬ (config.hypothesisClass = defaultHypothesisClass ∧
      config.translationClass = defaultTranslationClass)) {o : DecoderOutput}
    (hfits : ∀ p ∈ o.alignment, p.Fits) :
    ∃ f : Fault Empty, f.isLinkage = true ∧
      ∀ c : Context, c.Serves config → (c.exportOutput o).1 = .error (.ofFault f) := by
  obtain ⟨f, hf, h⟩ := Exporter.outcome_other hn hfits
  refine ⟨f, hf, ?_⟩
  intro c hc
  rw [hc.fst_exportOutput, h _ hc.exporter]

/-- Two contexts for one configuration give the same answer, whatever either was asked before. -/
theorem Context.Serves.exportOutput_eq {config : Config} {c d : Context} (hc : c.Serves config)
    (hd : d.Serves config) (o : DecoderOutput) : (c.exportOutput o).1 = (d.exportOutput o).1 := by
  cases ha : (Alignment.encode o.alignment : Except (Fault Empty) Alignment) with
  | error f => rw [hc.exportOutput_of_error ha, hd.exportOutput_of_error ha]
  | ok alignment =>
    have hfits := Alignment.fits_of_encodeFrom_ok ha
    by_cases hn : config.hypothesisClass = defaultHypothesisClass ∧
        config.translationClass = defaultTranslationClass
    · rw [hc.exportOutput_of_default hn.1 hn.2 hfits, hd.exportOutput_of_default hn.1 hn.2 hfits]
    · obtain ⟨f, -, h⟩ := exportOutput_of_other hn hfits
      rw [h c hc, h d hd]

end DecoderExport.Boundary
