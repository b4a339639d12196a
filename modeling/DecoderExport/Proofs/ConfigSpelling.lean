import DecoderExport.Config
import DecoderExport.Proofs.Rendering

/-!
# How configurations are spelled

An object may spell any of the fields of a configuration, in any order and with other members
between them. The fields whose keys it has are read as spelled, and the others have their defaults.
What is written for a configuration has all the keys, so it is read as the configuration.
-/

namespace DecoderExport.Config

open DecoderExport.Json

/-- The fields of a configuration. -/
def fields : List (FieldSpelling Config) := [
  ⟨"hypothesis_class", fun c => Text c.hypothesisClass,
    fun c => c.hypothesisClass = defaultHypothesisClass⟩,
  ⟨"translation_class", fun c => Text c.translationClass,
    fun c => c.translationClass = defaultTranslationClass⟩,
  ⟨"include_source", fun c => Truth c.includeSource, fun c => c.includeSource = true⟩]

/-- An object with the given keys, in this order, that has the fields of a configuration behind
theirs. -/
def SpelledWith (c : Config) (keys : List String) : Spelling :=
  Enclosed .object (keys.map (Member fields c))

/-- The configuration that has the fields of the given keys from another one, and defaults for the
rest. -/
def only (c : Config) (keys : List String) : Config where
  hypothesisClass := if "hypothesis_class" ∈ keys then c.hypothesisClass else defaultHypothesisClass
  translationClass :=
    if "translation_class" ∈ keys then c.translationClass else defaultTranslationClass
  includeSource := if "include_source" ∈ keys then c.includeSource else true

/-- The part of a configuration that the fields of the given names make. -/
def part (c : Config) (names : List String) : Draft where
  hypothesisClass := heldIf names "hypothesis_class" c.hypothesisClass
  translationClass := heldIf names "translation_class" c.translationClass
  includeSource := heldIf names "include_source" c.includeSource

theorem build_part (c : Config) (names : List String) :
    shape.build (c.part names) = .ok (c.only names) := by
  simp only [shape, part, only, heldIf]
  congr 2 <;> split <;> rfl

theorem shape_follows (c : Config) : shape.Follows fields c c.part where
  blank := rfl
  slots := by
    have hheld {β : Type} (name : String) (b : β) names := isSome_heldIf names name b
    refine .cons ⟨rfl, hheld _ _, fun _ => rfl, _, (text_reads c.hypothesisClass).map _, ?_⟩
      (.cons ⟨rfl, hheld _ _, fun _ => rfl, _, (text_reads c.translationClass).map _, ?_⟩
        (.cons ⟨rfl, hheld _ _, fun _ => rfl, _, (bool_reads c.includeSource).map _, ?_⟩ .nil))
    all_goals simp [part]
  other := by
    intro key names h
    have ⟨h1, h2, h3⟩ : "hypothesis_class" ≠ key ∧ "translation_class" ≠ key ∧
        "include_source" ≠ key := by
      simpa [fields] using h
    simp [part, h1, h2, h3]
  build := by
    intro names h
    have ⟨h1, h2, h3⟩ : ("hypothesis_class" ∉ names → c.hypothesisClass = defaultHypothesisClass) ∧
        ("translation_class" ∉ names → c.translationClass = defaultTranslationClass) ∧
        ("include_source" ∉ names → c.includeSource = true) := by
      simpa [fields] using h
    simp only [shape, part, getD_heldIf h1, getD_heldIf h2, getD_heldIf h3]

/-- An object is read as the fields that it spells and the defaults of the others. -/
theorem reader_reads (c : Config) {keys : List String} (hd : Distinct fields keys) :
    Reads shape.reader (c.only keys) (c.SpelledWith keys) where
  opens := fun _ _ h => h.opens
  read := by
    intro s' s t hs h _
    refine read_members c.shape_follows hd ?_ hs h
    rw [build_part]
    simp only [only, List.mem_reverse]

variable {ρ : Type}

theorem ofJson_of_spelled (c : Config) {keys : List String} (hd : Distinct fields keys)
    {text : String} (h : Document (c.SpelledWith keys) text) :
    (ofJson text : Except (Fault ρ) Config) = .ok (c.only keys) := by
  rw [ofJson, (c.reader_reads hd).whole h]

theorem document_render (c : Config) :
    Document (c.SpelledWith ["hypothesis_class", "translation_class", "include_source"])
      c.toJson.render := by
  have hhypothesis : Writes (memberText ("hypothesis_class", .string c.hypothesisClass))
      (Member fields c "hypothesis_class") :=
    member_writes rfl (string_writes c.hypothesisClass)
  have htranslation : Writes (memberText ("translation_class", .string c.translationClass))
      (Member fields c "translation_class") :=
    member_writes rfl (string_writes c.translationClass)
  have hsource : Writes (memberText ("include_source", .bool c.includeSource))
      (Member fields c "include_source") :=
    member_writes rfl (bool_writes c.includeSource)
  have hwritten := object_writes (.cons hhypothesis (.cons htranslation (.cons hsource .nil))) []
  rw [List.append_nil] at hwritten
  refine ⟨_, [], .none _, ?_, .none _⟩
  rw [Tree.render, String.toList_ofList]
  exact hwritten

/-- What is written for a configuration is read as the configuration. -/
theorem ofJson_render (c : Config) :
    (ofJson c.toJson.render : Except (Fault ρ) Config) = .ok c :=
  c.ofJson_of_spelled (by decide) c.document_render

end DecoderExport.Config
