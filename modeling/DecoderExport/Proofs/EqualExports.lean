import DecoderExport.Proofs.DefaultClasses
import DecoderExport.Proofs.Identity
import DecoderExport.Proofs.ValueEquality

/-!
# Equal results of exports

In registries with the default classes the result of a call is equal by value to the result of
another one exactly if the outputs are equal, whichever exporters are called and whatever happens
before and in between. The two results are never the same object.
-/

namespace DecoderExport

/-! ### Outputs by value -/

/-- Candidates that are equal by value. -/
structure Candidate.Same (c d : Candidate) : Prop where
  text : c.text = d.text
  score : c.score.same d.score = true
  features : c.features = d.features

/-- Outputs that are equal by value. -/
structure DecoderOutput.Same (o p : DecoderOutput) : Prop where
  text : o.text = p.text
  source : o.source = p.source
  nbest : List.Forall₂ Candidate.Same o.nbest p.nbest
  alignment : o.alignment = p.alignment

theorem Candidate.same_self {c : Candidate} : c.Same c ↔ c.score.isNaN = false :=
  ⟨fun h => Number.Binary.same_self.1 h.score, fun h => ⟨rfl, Number.Binary.same_self.2 h, rfl⟩⟩

namespace Value

theorem ofCandidate_same_iff {i j : Nat} {c d : Candidate} :
    (ofCandidate i c).same (ofCandidate j d) = true ↔ c.Same d := by
  constructor
  · intro h
    simp [ofCandidate, same, sameFields] at h
    exact ⟨h.1, h.2.1, h.2.2⟩
  · intro h
    simp [ofCandidate, same, sameFields, h.text, h.score, h.features]

theorem candidates_same_iff {cs ds : List Candidate} {i j : Nat} :
    List.Forall₂ (fun v w => v.same w = true) ((cs.zipIdx i).map fun (c, k) => ofCandidate k c)
      ((ds.zipIdx j).map fun (d, k) => ofCandidate k d) ↔ List.Forall₂ Candidate.Same cs ds := by
  induction cs generalizing ds i j with
  | nil => cases ds <;> simp
  | cons c cs ih =>
    cases ds with
    | nil => simp
    | cons d ds =>
      simp only [List.zipIdx_cons, List.map_cons, List.forall₂_cons, ofCandidate_same_iff, ih]

theorem source_same_iff {s t : Option String} :
    (s.elim null text).same (t.elim null text) = true ↔ s = t := by
  cases s <;> cases t <;> simp [same]

/-- Exports are equal exactly if the outputs are, apart from sources that have been left out. -/
theorem exported_same_iff {o p : DecoderOutput} (ho : ∀ a ∈ o.alignment, a.Fits)
    (hp : ∀ a ∈ p.alignment, a.Fits) {i j : Nat} {s t : Option String} :
    (exported i o s (o.alignment.flatMap AlignmentPair.entries)).same
        (exported j p t (p.alignment.flatMap AlignmentPair.entries)) = true ↔
      o.text = p.text ∧ s = t ∧ List.Forall₂ Candidate.Same o.nbest p.nbest ∧
        o.alignment = p.alignment := by
  have hflat : o.alignment.flatMap AlignmentPair.entries =
      p.alignment.flatMap AlignmentPair.entries ↔ o.alignment = p.alignment := by
    refine ⟨fun h => ?_, fun h => by rw [h]⟩
    rw [← Alignment.pairsOf_entries ho, h, Alignment.pairsOf_entries hp]
  rw [exported, exported, object_same_iff]
  simp only [List.forall₂_cons, List.forall₂_nil_left_iff, true_and, and_true, array_same_iff,
    candidates_same_iff, source_same_iff]
  rw [← hflat]
  simp only [same, decide_eq_true_eq]
  tauto

end Value

/-! ### Benches whose registry stays -/

theorem World.model_attempted {α : Type} (w : World) (reply : Except (Fault Empty) α) :
    (w.attempted reply).model = w.model := by
  cases reply <;> rfl

theorem Handle.model_create (h : Handle ClassDef Constructor) (args : List (Arg Value)) (w : World) :
    (h.create args w).2.2.model = w.model.afterResolving h := by
  rw [Handle.create, Handle.resolve_eq]
  cases h.find w.model with
  | error f => rfl
  | ok found => simp only [World.newObject_eq, World.model_attempted]

theorem Handle.model_createArray (h : Handle ClassDef Constructor) (elements : List Value)
    (w : World) : (h.createArray elements w).2.2.model = w.model.afterResolving h := by
  rw [Handle.createArray, Handle.resolve_eq]
  cases h.find w.model with
  | error f => rfl
  | ok found => simp only [World.newArray_eq, World.model_attempted]

/-- An operation leaves the classes of a registry alone. -/
def Op.KeepsClasses (m : ObjectModel) : Op → Prop
  | .turn m' => m'.classes = m.classes
  | .register _ => False
  | _ => True

namespace Bench

variable {configs : Nat → Config} {m : ObjectModel} {b : Bench World Value}

theorem classes_step (hb : b.host.model.classes = m.classes) {op : Op} (hop : op.KeepsClasses m) :
    (b.step op).host.model.classes = m.classes := by
  cases op with
  | turn m' => exact hop
  | register cls => exact hop.elim
  | newArray cls elements =>
    simp only [Bench.step]
    split
    · exact hb
    · simp only [World.newArray_eq, obtain, World.model_attempted]
      exact hb
  | newObject cls c args =>
    simp only [Bench.step]
    split
    · exact hb
    · simp only [World.newObject_eq, obtain, World.model_attempted]
      exact hb
  | resolveHypotheses i =>
    simp only [Bench.step, HypothesisBuilder.resolve, Handle.resolve_eq, settle]
    rw [ObjectModel.classes_afterResolving, hb]
  | resolveTranslations i =>
    simp only [Bench.step, TranslationBuilder.resolve, Handle.resolve_eq, settle]
    rw [ObjectModel.classes_afterResolving, hb]
  | hypothesis i d =>
    simp only [Bench.step, HypothesisBuilder.create, settle, obtain, Handle.model_create]
    rw [ObjectModel.classes_afterResolving, hb]
  | hypotheses i elements =>
    simp only [Bench.step]
    split
    · exact hb
    · simp only [HypothesisBuilder.newArray, settle, obtain, Handle.model_createArray]
      rw [ObjectModel.classes_afterResolving, hb]
  | translation i text nbest alignment source =>
    simp only [Bench.step]
    split
    · rename_i nbest alignment _ _
      obtain ⟨n, hbuild⟩ := (b.exporters i).translations.build_world text nbest alignment source
        b.host
      simp only [hbuild, settle, obtain]
      rw [ObjectModel.classes_afterResolving, hb]
    · exact hb
  | marshal i o =>
    simp only [Bench.step, settle, obtain, Exporter.model_marshal]
    rw [Exporter.classes_consulted, hb]
  | _ => exact hb

/-- The registry has the classes of a given one, and the exporters hold what it would answer. -/
structure Serving (configs : Nat → Config) (m : ObjectModel) (b : Bench World Value) : Prop where
  classes : b.host.model.classes = m.classes
  serves : ∀ i, (b.exporters i).Serves (configs i) m

theorem Serving.step (h : Serving configs m b) {op : Op} (hop : op.KeepsClasses m) :
    Serving configs m (b.step op) := by
  refine ⟨classes_step h.classes hop, exporters_step (R := fun i => Exporter.Serves (configs i) m)
    (fun _ => ⟨?_, ?_⟩) h.serves op⟩
  · intro e he
    rw [Handle.settled_congr h.classes]
    exact ⟨he.follows, ⟨he.agrees.hypotheses.settled, he.agrees.narrow, he.agrees.extended⟩⟩
  · intro e source he
    rw [TranslationBuilder.settled_congr h.classes]
    cases source with
    | none =>
      exact ⟨he.follows, ⟨he.agrees.hypotheses, he.agrees.narrow.settled, he.agrees.extended⟩⟩
    | some s =>
      exact ⟨he.follows, ⟨he.agrees.hypotheses, he.agrees.narrow, he.agrees.extended.settled⟩⟩

theorem Serving.run (h : Serving configs m b) {ops : List Op} (hops : ∀ op ∈ ops, op.KeepsClasses m) :
    Serving configs m (b.run ops) := by
  induction ops generalizing b with
  | nil => exact h
  | cons op ops ih =>
    obtain ⟨hop, hrest⟩ := List.forall_mem_cons.1 hops
    exact ih (h.step hop) hrest

theorem serving_start (configs : Nat → Config) (m : ObjectModel) (minted : Nat) :
    Serving configs m (start ⟨m, minted⟩ configs) :=
  ⟨rfl, fun i => .ofConfig (configs i) m⟩

theorem yields_marshal_iff {i : Nat} {o : DecoderOutput} {v : Value} :
    b.Yields (.marshal i o) v ↔ ((b.exporters i).marshal o b.host).1 = .ok v := by
  refine ⟨eq_ok_of_obtain, fun h => ?_⟩
  simp only [Yields, Bench.step, settle, obtain, h]
  rfl

/-- With the default classes a call returns the export of an output whose indices fit, and only if
the exporter asks for these classes. -/
theorem Serving.yields_iff (h : Serving configs .withDefaultClasses b) {i : Nat}
    {o : DecoderOutput} {v : Value} :
    b.Yields (.marshal i o) v ↔
      ((configs i).hypothesisClass = defaultHypothesisClass ∧
        (configs i).translationClass = defaultTranslationClass) ∧
      (∀ p ∈ o.alignment, p.Fits) ∧
      v = .exported b.host.minted o (if (configs i).includeSource then o.source else none)
        (o.alignment.flatMap AlignmentPair.entries) := by
  rw [yields_marshal_iff, Exporter.fst_marshal, Exporter.outcome_congr _ _ h.classes]
  by_cases hfits : ∀ p ∈ o.alignment, p.Fits
  · by_cases hnames : (configs i).hypothesisClass = defaultHypothesisClass ∧
        (configs i).translationClass = defaultTranslationClass
    · rw [Exporter.outcome_default (h.serves i) hnames.1 hnames.2 hfits, Except.ok.injEq, eq_comm]
      exact ⟨fun hv => ⟨hnames, hfits, hv⟩, fun hv => hv.2.2⟩
    · obtain ⟨f, -, hf⟩ := Exporter.outcome_other hnames hfits
      rw [hf _ (h.serves i)]
      exact ⟨nofun, fun hv => absurd hv.1 hnames⟩
  · obtain ⟨f, hf⟩ := Alignment.encode_error_of_not_fits (ρ := Empty) hfits
    simp only [Exporter.outcome, hf]
    exact ⟨nofun, fun hv => absurd hv.2.1 hfits⟩

/-! ### What has been obtained before -/

theorem mem_obtained_step {v : Value} (h : v ∈ b.obtained) (op : Op) :
    v ∈ (b.step op).obtained := by
  have hkept (b' : Bench World Value) (hb : b'.obtained = b.obtained) (x : Option Value) :
      v ∈ (b'.obtain x).obtained := List.mem_append_left _ (hb ▸ h)
  cases op with
  | newArray cls elements =>
    simp only [Bench.step]
    split
    · exact h
    · exact hkept _ rfl _
  | newObject cls c args =>
    simp only [Bench.step]
    split
    · exact h
    · exact hkept _ rfl _
  | hypotheses i elements =>
    simp only [Bench.step]
    split
    · exact h
    · exact hkept _ rfl _
  | translation i text nbest alignment source =>
    simp only [Bench.step]
    split
    · exact hkept _ rfl _
    · exact h
  | newInts values => exact hkept _ rfl _
  | hypothesis i d => exact hkept _ rfl _
  | marshal i o => exact hkept _ rfl _
  | field value name => exact hkept b rfl _
  | element value index => exact hkept b rfl _
  | _ => exact h

theorem mem_obtained_run {v : Value} (h : v ∈ b.obtained) (ops : List Op) :
    v ∈ (b.run ops).obtained := by
  induction ops generalizing b with
  | nil => exact h
  | cons op ops ih => exact ih (mem_obtained_step h op)

/-- What a call makes is no object that has been obtained before. -/
theorem not_sameObject_of_marshal {w : World} {before : List Op} {i : Nat} {o : DecoderOutput}
    {u v : Value} (hu : u ∈ ((start w configs).run before).obtained)
    (hv : ((start w configs).run before).Yields (.marshal i o) v) : u.sameObject v = false := by
  have hrun := Traced.related_run w configs before
  obtain ⟨z, hz, rfl⟩ := Traced.known_of_obtained w configs before hu (.self u)
  have hapart := apart_of_marshal hrun.hosts.2 hrun.hosts.1 hv (.self v) hz
  rw [Bool.eq_false_iff] at hapart ⊢
  intro hsame
  obtain ⟨stamp, hz, hv⟩ := Value.sameObject_iff.1 hsame
  exact hapart (Value.sameObject_iff.2 ⟨stamp, hv, hz⟩)

/-! ### Two calls -/

/-- Comparison by value is symmetric and transitive, and a value is equal to itself unless it holds a
float that is no number. With the default classes every output that is exported once is exported
again, as another object, and the two are equal by value exactly if the scores of all candidates are
numbers. With their sources carried along, two exports are equal exactly if the outputs are. -/
theorem same_iff_same_outputs (configs : Nat → Config) (minted : Nat) :
    (∀ u v : Value, u.same v = v.same u) ∧
    (∀ u v w : Value, u.same v = true → v.same w = true → u.same w = true) ∧
    (∀ v : Value, v.same v = true ↔ ¬ v.HasNaN) ∧
    ∀ before between : List Op,
      (∀ op ∈ before ++ between, op.KeepsClasses .withDefaultClasses) →
      ∀ i o v,
        let first := (start (⟨.withDefaultClasses, minted⟩ : World) configs).run before
        let second := (first.step (.marshal i o)).run between
        first.Yields (.marshal i o) v →
          (∃ w, second.Yields (.marshal i o) w) ∧
          ∀ j p w, second.Yields (.marshal j p) w →
            v.sameObject w = false ∧
            (p = o → (configs j).includeSource = (configs i).includeSource →
              (v.same w = true ↔ ∀ c ∈ o.nbest, c.score.isNaN = false)) ∧
            ((configs i).includeSource = true → (configs j).includeSource = true →
              (v.same w = true ↔ o.Same p)) := by
  refine ⟨fun u v => Bool.eq_iff_iff.2 ⟨Value.same_symm, Value.same_symm⟩,
    fun _ _ _ => Value.same_trans, fun _ => Value.same_self, ?_⟩
  intro before between hops i o v first second hv
  obtain ⟨hbefore, hbetween⟩ := List.forall_mem_append.1 hops
  have hfirst : Serving configs .withDefaultClasses first :=
    (serving_start configs _ minted).run hbefore
  have hcall : Op.KeepsClasses .withDefaultClasses (.marshal i o) := trivial
  have hsecond : Serving configs .withDefaultClasses second := (hfirst.step hcall).run hbetween
  have hrun : second = (start (⟨.withDefaultClasses, minted⟩ : World) configs).run
      (before ++ .marshal i o :: between) := by
    rw [run, List.foldl_append]
    rfl
  have hmem : v ∈ second.obtained := by
    refine mem_obtained_run ?_ between
    rw [show (first.step (.marshal i o)).obtained = first.obtained ++ [v] from hv]
    exact List.mem_append_right _ (List.mem_singleton_self v)
  obtain ⟨hnames, hfits, hexport⟩ := hfirst.yields_iff.1 hv
  refine ⟨⟨_, hsecond.yields_iff.2 ⟨hnames, hfits, rfl⟩⟩, fun j p w hw => ?_⟩
  obtain ⟨-, hfits', hexport'⟩ := hsecond.yields_iff.1 hw
  refine ⟨?_, ?_, ?_⟩
  · rw [hrun] at hmem hw
    exact not_sameObject_of_marshal hmem hw
  · rintro rfl hsource
    rw [hexport, hexport', hsource, Value.exported_same_iff hfits hfits']
    simp only [true_and, and_true, List.forall₂_same, Candidate.same_self]
  · intro hi hj
    rw [hexport, hexport', Value.exported_same_iff hfits hfits', if_pos hi, if_pos hj]
    exact ⟨fun h => ⟨h.1, h.2.1, h.2.2.1, h.2.2.2⟩,
      fun h => ⟨h.text, h.source, h.nbest, h.alignment⟩⟩

/-- The scores zero and minus zero. -/
def signedZeros : DecoderOutput × DecoderOutput :=
  (⟨"t", some "s", [⟨"h", .ofBits Number.single 0, ""⟩], [⟨0, 1⟩]⟩,
    ⟨"t", some "s", [⟨"h", .ofBits Number.single 0x80000000, ""⟩], [⟨0, 1⟩]⟩)

/-- The exports of two outputs whose scores are zeros with different signs are equal, but not the
same object. -/
theorem same_iff_same_outputs_zeros :
    let first := (start (⟨.withDefaultClasses, 0⟩ : World) fun _ => {}).run
      [.hypothesis 0 ⟨"g", .ofBits Number.single 0, ""⟩]
    let second := (first.step (.marshal 0 signedZeros.1)).run [.newInts [1]]
    ∃ v w, first.Yields (.marshal 0 signedZeros.1) v ∧ second.Yields (.marshal 1 signedZeros.2) w ∧
      v.sameObject w = false ∧ v.same w = true := by
  intro first second
  obtain ⟨-, -, -, hcalls⟩ := same_iff_same_outputs (fun _ => {}) 0
  have hv : first.Yields (.marshal 0 signedZeros.1)
      (.exported 1 signedZeros.1 (some "s") [0, 1]) := by rfl
  have hw : second.Yields (.marshal 1 signedZeros.2)
      (.exported 6 signedZeros.2 (some "s") [0, 1]) := by rfl
  obtain ⟨-, hsecond⟩ := hcalls [.hypothesis 0 ⟨"g", .ofBits Number.single 0, ""⟩] [.newInts [1]]
    (by simp [Op.KeepsClasses]) 0 signedZeros.1 _ hv
  obtain ⟨hobject, -, hsame⟩ := hsecond 1 signedZeros.2 _ hw
  refine ⟨_, _, hv, hw, hobject, (hsame rfl rfl).2 ⟨rfl, rfl, ?_, rfl⟩⟩
  exact .cons ⟨rfl, by decide, rfl⟩ .nil

end Bench

end DecoderExport
