import DecoderExport.Proofs.DefaultClasses
import DecoderExport.Proofs.Provenance
import DecoderExport.Proofs.Workshop

/-!
# Which object a value is

Two values are the same object if they stem from the same creation, and only then. What is put into
an array or into a translation is read back as the object that it was, and a call of an exporter
shares nothing with any value from before it.
-/

namespace DecoderExport

theorem Value.sameObject_iff {u v : Value} :
    u.sameObject v = true ↔ ∃ stamp, u.stamp? = some stamp ∧ v.stamp? = some stamp := by
  unfold sameObject
  cases u.stamp? with
  | none => simp
  | some stamp => simp [eq_comm]

namespace Traced

variable {first : Nat} {t : Traced} {x y : Tracked}

/-- Of known values exactly those have a stamp that have been made, each creation its own. -/
theorem Knows.stamp?_eq (hx : t.Knows x) (h : t.Sound first) :
    x.value.stamp? = x.origin.map (first + ·) := by
  cases hx with
  | plain hv => exact hv
  | made hk => exact Material.stamp?_of_make (h.made _ _ hk)

theorem Knows.stamp_lt (hx : t.Knows x) (h : t.Sound first) {stamp : Nat}
    (hs : x.value.stamp? = some stamp) : stamp < t.world.minted := by
  cases hx with
  | plain hv =>
    rw [hv] at hs
    cases hs
  | @made k creation hk =>
    have hstamp := Material.stamp?_of_make (h.made _ _ hk)
    have hlt : k < t.creations.length := (List.getElem?_eq_some_iff.1 hk).1
    rw [hs, Option.some.injEq] at hstamp
    rw [h.minted]
    omega

theorem Knows.value_eq (hx : t.Knows x) (hy : t.Knows y) {k : Nat} (hxk : x.origin = some k)
    (hyk : y.origin = some k) : x.value = y.value := by
  cases hx with
  | plain => cases hxk
  | made hx =>
    cases hy with
    | plain => cases hyk
    | made hy =>
      cases hxk
      cases hyk
      rw [hx, Option.some.injEq] at hy
      rw [hy]

theorem Knows.sameObject_iff (hx : t.Knows x) (hy : t.Knows y) (h : t.Sound first) :
    x.value.sameObject y.value = true ↔
      ∃ k creation, t.creations[k]? = some creation ∧ x.origin = some k ∧ y.origin = some k := by
  rw [Value.sameObject_iff, hx.stamp?_eq h, hy.stamp?_eq h]
  constructor
  · rintro ⟨stamp, hxs, hys⟩
    obtain ⟨k, hxk, rfl⟩ := Option.map_eq_some_iff.1 hxs
    obtain ⟨k', hyk, hk⟩ := Option.map_eq_some_iff.1 hys
    obtain rfl : k' = k := Nat.add_left_cancel hk
    cases hx with
    | plain => cases hxk
    | made hk =>
      cases hxk
      exact ⟨_, _, hk, rfl, hyk⟩
  · rintro ⟨k, -, -, hxk, hyk⟩
    exact ⟨first + k, by rw [hxk]; rfl, by rw [hyk]; rfl⟩

end Traced

/-! ### What a bench holds -/

/-- An exporter that follows a configuration, with handles that hold what they ask for. -/
structure Exporter.Sound (config : Config) (e : Exporter ClassDef Constructor) : Prop where
  follows : e.Follows config
  fits : e.Each Handle.Fits

namespace Exporter.Sound

variable {config : Config} {e : Exporter ClassDef Constructor}

theorem ofConfig (config : Config) : (Exporter.ofConfig config).Sound config :=
  ⟨rfl, ⟨nofun, nofun, nofun⟩⟩

theorem settled_hypotheses (h : e.Sound config) (m : ObjectModel) :
    Exporter.Sound config { e with hypotheses := ⟨e.hypotheses.handle.settled m⟩ } :=
  ⟨h.follows, ⟨h.fits.hypotheses.settled m, h.fits.narrow, h.fits.extended⟩⟩

theorem settled_translations (h : e.Sound config) (source : Option String) (m : ObjectModel) :
    Exporter.Sound config { e with translations := e.translations.settled source m } := by
  cases source with
  | none => exact ⟨h.follows, ⟨h.fits.hypotheses, h.fits.narrow.settled m, h.fits.extended⟩⟩
  | some s => exact ⟨h.follows, ⟨h.fits.hypotheses, h.fits.narrow, h.fits.extended.settled m⟩⟩

end Exporter.Sound

/-- Settling any of its handles keeps a property of an exporter. -/
structure Exporter.KeptBySettling (m : ObjectModel) (R : Exporter ClassDef Constructor → Prop) :
    Prop where
  hypotheses : ∀ e, R e → R { e with hypotheses := ⟨e.hypotheses.handle.settled m⟩ }
  translations : ∀ e source, R e → R { e with translations := e.translations.settled source m }

/-- A call settles the handles that it uses, so it keeps what settling keeps. -/
theorem Exporter.KeptBySettling.afterwards {m : ObjectModel}
    {R : Exporter ClassDef Constructor → Prop} (hR : Exporter.KeptBySettling m R)
    {e : Exporter ClassDef Constructor} (h : R e) (o : DecoderOutput) (stamp : Nat) :
    R (e.afterwards o m stamp) := by
  unfold Exporter.afterwards
  split
  · exact h
  · split
    · exact hR.hypotheses e h
    · exact hR.translations _ _ (hR.hypotheses e h)

namespace Bench

variable {configs : Nat → Config} {b : Bench World Value} {v : Value}

/-- The exporters of a bench are sound. -/
def Equipped (configs : Nat → Config) (b : Bench World Value) : Prop :=
  ∀ i, (b.exporters i).Sound (configs i)

/-- What settling its handles keeps of an exporter is kept by every operation. -/
theorem exporters_step {R : Nat → Exporter ClassDef Constructor → Prop}
    (hR : ∀ i, Exporter.KeptBySettling b.host.model (R i)) (h : ∀ i, R i (b.exporters i)) (op : Op)
    (j : Nat) : R j ((b.step op).exporters j) := by
  have hupdate {i : Nat} {e : Exporter ClassDef Constructor} (he : R i e) :
      R j (Function.update b.exporters i e j) := by
    by_cases hj : j = i
    · subst hj
      rwa [Function.update_self]
    · rw [Function.update_of_ne hj]
      exact h j
  cases op with
  | turn m => exact h j
  | register cls => exact h j
  | findClass name => exact h j
  | findConstructor cls signature => exact h j
  | newInts values => exact h j
  | newArray cls elements =>
    simp only [Bench.step]
    split <;> exact h j
  | newObject cls c args =>
    simp only [Bench.step]
    split <;> exact h j
  | resolveHypotheses i =>
    simp only [Bench.step, HypothesisBuilder.resolve, Handle.resolve_eq]
    exact hupdate ((hR i).hypotheses _ (h i))
  | resolveTranslations i =>
    simp only [Bench.step, TranslationBuilder.resolve, Handle.resolve_eq]
    exact hupdate ((hR i).translations _ none (h i))
  | hypothesis i d =>
    have he := (hR i).hypotheses _ (h i)
    rw [← (Handle.create_eq _ d.args b.host).1] at he
    exact hupdate he
  | hypotheses i elements =>
    simp only [Bench.step]
    split
    · exact h j
    · rename_i elements _
      have he := (hR i).hypotheses _ (h i)
      rw [← (Handle.createArray_eq _ elements b.host).1] at he
      exact hupdate he
  | translation i text nbest alignment source =>
    simp only [Bench.step]
    split
    · rename_i nbest alignment _ _
      obtain ⟨n, hbuild⟩ := (b.exporters i).translations.build_world text nbest alignment source
        b.host
      simp only [hbuild]
      exact hupdate ((hR i).translations _ source (h i))
    · exact h j
  | marshal i o =>
    simp only [Bench.step, Exporter.exporter_marshal]
    exact hupdate ((hR i).afterwards (h i) o _)
  | field value name => exact h j
  | element value index => exact h j

theorem Equipped.step (h : Equipped configs b) (op : Op) : Equipped configs (b.step op) :=
  exporters_step (R := fun i => Exporter.Sound (configs i)) (fun _ =>
    { hypotheses := fun _ he => he.settled_hypotheses b.host.model
      translations := fun _ source he => he.settled_translations source b.host.model }) h op

theorem equipped_run (w : World) (configs : Nat → Config) (ops : List Op) :
    Equipped configs ((start w configs).run ops) := by
  have hrun : ∀ b : Bench World Value, Equipped configs b → Equipped configs (b.run ops) := by
    induction ops with
    | nil => exact fun _ h => h
    | cons op ops ih => exact fun b h => ih (b.step op) (h.step op)
  exact hrun _ fun i => .ofConfig (configs i)

/-! ### What is read back -/

/-- An operation obtains a value. -/
def Yields (b : Bench World Value) (op : Op) (v : Value) : Prop :=
  (b.step op).obtained = b.obtained ++ [v]

theorem not_obtained_append (v : Value) : ¬ b.obtained = b.obtained ++ [v] := by
  intro h
  have hl := congrArg List.length h
  simp at hl

theorem eq_ok_of_obtain {reply : Except (Fault Empty) Value}
    (h : (b.obtain reply.toOption).obtained = b.obtained ++ [v]) : reply = .ok v := by
  cases reply with
  | error f =>
    rw [obtain, Except.toOption, Option.toList, List.append_nil] at h
    exact absurd h (not_obtained_append v)
  | ok u => simpa [obtain, Except.toOption] using h

theorem gather_of_yields {cls : ClassDef} {ns : List Nat} (h : b.Yields (.newArray cls ns) v) :
    ∃ elements, ns.mapM (b.obtained[·]?) = some elements ∧
      cls.gather b.host.minted elements = .ok v := by
  simp only [Yields, step] at h
  cases hns : ns.mapM (b.obtained[·]?) with
  | none =>
    simp only [hns] at h
    exact absurd h (not_obtained_append v)
  | some elements =>
    simp only [hns, World.newArray_eq] at h
    exact ⟨elements, rfl, eq_ok_of_obtain h⟩

theorem gather_of_yields_hypotheses {i : Nat} {ns : List Nat}
    (h : b.Yields (.hypotheses i ns) v) :
    ∃ elements cls c, ns.mapM (b.obtained[·]?) = some elements ∧
      (b.exporters i).hypotheses.handle.find b.host.model = .ok (cls, c) ∧
      cls.gather b.host.minted elements = .ok v := by
  simp only [Yields, step] at h
  cases hns : ns.mapM (b.obtained[·]?) with
  | none =>
    simp only [hns] at h
    exact absurd h (not_obtained_append v)
  | some elements =>
    simp only [hns] at h
    have hreply := eq_ok_of_obtain h
    simp only [HypothesisBuilder.newArray, Handle.createArray, Handle.resolve_eq] at hreply
    cases hf : (b.exporters i).hypotheses.handle.find b.host.model with
    | error f => simp [hf] at hreply
    | ok found =>
      obtain ⟨cls, c⟩ := found
      simp only [hf, World.newArray_eq] at hreply
      exact ⟨elements, cls, c, rfl, rfl, hreply⟩

theorem make_of_yields_translation {i n a : Nat} {text : String} {source : Option String}
    (h : b.Yields (.translation i text n a source) v) :
    ∃ nbest alignment cls c, b.obtained[n]? = some nbest ∧ b.obtained[a]? = some alignment ∧
      ((b.exporters i).translations.selected source).find b.host.model = .ok (cls, c) ∧
      cls.make c b.host.minted (TranslationBuilder.values text nbest alignment source) = .ok v := by
  simp only [Yields, step] at h
  cases hn : b.obtained[n]? with
  | none =>
    simp only [hn] at h
    exact absurd h (not_obtained_append v)
  | some nbest =>
    cases ha : b.obtained[a]? with
    | none =>
      simp only [hn, ha] at h
      exact absurd h (not_obtained_append v)
    | some alignment =>
      simp only [hn, ha] at h
      have hreply := eq_ok_of_obtain h
      obtain ⟨minted, hbuild⟩ := (b.exporters i).translations.build_world text nbest alignment
        source b.host
      simp only [hbuild, TranslationBuilder.outcome] at hreply
      cases hf : ((b.exporters i).translations.selected source).find b.host.model with
      | error f => simp [hf] at hreply
      | ok found =>
        obtain ⟨cls, c⟩ := found
        simp only [hf] at hreply
        exact ⟨nbest, alignment, cls, c, rfl, rfl, rfl, hreply⟩

end Bench

/-- What a parameter for arrays takes is an array, which is the same object as itself. -/
theorem Value.sameObject_self_of_fits {v : Value} {kind : ParamKind} (h : v.fits kind = true)
    (hkind : kind = .ints ∨ ∃ cls, kind = .objects cls) : v.sameObject v = true := by
  have hstamp : ∃ stamp, v.stamp? = some stamp := by
    rcases hkind with rfl | ⟨cls, rfl⟩ <;> cases v <;> first | exact ⟨_, rfl⟩ | cases h
  obtain ⟨stamp, hs⟩ := hstamp
  exact sameObject_iff.2 ⟨stamp, hs, hs⟩

/-- The fields that the arrays of a translation are assigned to hold these very arrays, unless a
later argument takes their place. -/
theorem ClassDef.arrays_of_make {cls : ClassDef} {c : Constructor} {hypothesisClass text : String}
    {source : Option String} {nbest alignment v : Value} {stamp : Nat}
    (hc : c ∈ cls.constructors) (hsignature : c.signature = .translation hypothesisClass source)
    (h : cls.make c stamp (TranslationBuilder.values text nbest alignment source) = .ok v) :
    nbest.sameObject nbest = true ∧ alignment.sameObject alignment = true ∧
      ∃ f g, c.assigns[1]? = some f ∧ c.assigns[2]? = some g ∧
        (f ∉ c.assigns.drop 2 → v.field? f = some nbest) ∧
        (g ∉ c.assigns.drop 3 → v.field? g = some alignment) := by
  obtain ⟨hlength, hdeclared⟩ := cls.suited c hc
  have hadmits := Constructor.admits_of_no_objection (objection_of_make h)
  have hfits : nbest.fits (.objects hypothesisClass) = true ∧ alignment.fits .ints = true := by
    rw [hsignature] at hadmits
    cases source with
    | none =>
      cases hadmits with
      | cons _ hrest => cases hrest with
        | cons hn hrest => cases hrest with
          | cons ha _ => exact ⟨hn, ha⟩
    | some source =>
      cases hadmits with
      | cons _ hrest => cases hrest with
        | cons hn hrest => cases hrest with
          | cons ha _ => exact ⟨hn, ha⟩
  have harity : 2 < c.assigns.length := by
    rw [hlength, hsignature]
    cases source <;> simp [Signature.translation, Signature.narrow, Signature.extended,
      Signature.arity]
  refine ⟨Value.sameObject_self_of_fits hfits.1 (.inr ⟨_, rfl⟩),
    Value.sameObject_self_of_fits hfits.2 (.inl rfl), c.assigns[1], c.assigns[2],
    List.getElem?_eq_getElem _, List.getElem?_eq_getElem _, ?_, ?_⟩
  · intro hlast
    rw [field?_of_make h]
    exact reading?_of_last (hdeclared _ (List.getElem_mem _)) (List.getElem?_eq_getElem _) rfl
      hlast _
  · intro hlast
    rw [field?_of_make h]
    exact reading?_of_last (hdeclared _ (List.getElem_mem _)) (List.getElem?_eq_getElem _) rfl
      hlast _

/-! ### What a call of an exporter makes -/

/-- Nothing at any depth of a value has a stamp before the given one. -/
def Value.StampedFrom (first : Nat) (v : Value) : Prop :=
  ∀ (x : Value) (stamp : Nat), x.Part v → x.stamp? = some stamp → first ≤ stamp

namespace Value.StampedFrom

variable {first : Nat}

theorem text (s : String) : (Value.text s).StampedFrom first := by
  rintro _ stamp (_ | _) hs
  cases hs

theorem float (x : Number.Single) : (Value.float x).StampedFrom first := by
  rintro _ stamp (_ | _) hs
  cases hs

theorem ints {stamp : Nat} (hstamp : first ≤ stamp) (values : List Int32) :
    (Value.ints stamp values).StampedFrom first := by
  rintro _ _ (_ | _) hs
  cases hs
  exact hstamp

theorem array {stamp : Nat} (hstamp : first ≤ stamp) (cls : String) {elements : List Value}
    (h : ∀ x ∈ elements, x.StampedFrom first) :
    (Value.array stamp cls elements).StampedFrom first := by
  rintro x _ (_ | ⟨hy, hx⟩) hs
  · cases hs
    exact hstamp
  · exact h _ hy x _ hx hs

theorem object {stamp : Nat} (hstamp : first ≤ stamp) (cls : String)
    {fields : List (String × Value)} (h : ∀ f ∈ fields, f.2.StampedFrom first) :
    (Value.object stamp cls fields).StampedFrom first := by
  rintro x _ (_ | _ | ⟨hf, hx⟩) hs
  · cases hs
    exact hstamp
  · exact h _ hf x _ hx hs

theorem of_make {cls : ClassDef} {c : Constructor} {stamp : Nat} {args : List Value} {v : Value}
    (hv : cls.make c stamp args = .ok v) (hstamp : first ≤ stamp)
    (h : ∀ x ∈ args, x.StampedFrom first) : v.StampedFrom first := by
  rw [ClassDef.eq_of_make hv]
  refine object hstamp _ ?_
  intro f hf
  rcases mem_initialFields hf with hnull | hmem
  · rw [hnull]
    rintro _ _ (_ | _) hs
    cases hs
  · exact h f.2 hmem

end Value.StampedFrom

namespace World

/-- A world stands for itself, and values with late stamps only stand for themselves. -/
def since (first : Nat) : HostRelation World World Value Value where
  states w w' := w' = w ∧ first ≤ w.minted
  objects _ v v' := v' = v ∧ v.StampedFrom first

theorem since_ends {α : Type} {first : Nat} {P : World → α → α → Prop} (w : World)
    {x : Reply World Empty α} (hm : first ≤ x.2.minted) (hP : ∀ a, x.1 = .ok a → P x.2 a a) :
    (since first).Ends w P x x := by
  obtain ⟨reply, w'⟩ := x
  cases reply with
  | error f => exact .error f ⟨rfl, hm⟩ fun _ _ h => h
  | ok a => exact .ok ⟨rfl, hm⟩ (fun _ _ h => h) (hP a rfl)

theorem le_minted_attempted {α : Type} {first : Nat} {w : World} (h : first ≤ w.minted)
    (reply : Except (Fault Empty) α) : first ≤ (w.attempted reply).minted := by
  cases reply with
  | error f => exact h
  | ok a => exact Nat.le_succ_of_le h

theorem eq_of_since {first : Nat} {w : World} {elements elements' : List Value}
    (h : List.Forall₂ ((since first).objects w) elements elements') :
    elements' = elements ∧ ∀ x ∈ elements, x.StampedFrom first := by
  induction h with
  | nil => simp
  | cons hx _ ih => exact ⟨by rw [hx.1, ih.1], List.forall_mem_cons.2 ⟨hx.2, ih.2⟩⟩

theorem args_eq_of_since {first : Nat} {w : World} {args args' : List (Arg Value)}
    (h : List.Forall₂ (Arg.Related ((since first).objects w)) args args') :
    args' = args ∧ ∀ x ∈ args.map Arg.toValue, x.StampedFrom first := by
  induction h with
  | nil => simp
  | cons hx _ ih =>
    rw [List.map_cons, List.forall_mem_cons, ih.1]
    cases hx with
    | text s => exact ⟨rfl, .text s, ih.2⟩
    | float x => exact ⟨rfl, .float x, ih.2⟩
    | object hx => exact ⟨by rw [hx.1], hx.2, ih.2⟩

theorem since_inStep (first : Nat) : (since first).InStep where
  findClass name w w' h := by
    obtain ⟨rfl, h⟩ := h
    exact since_ends _ h fun _ _ => rfl
  findConstructor cls signature w w' h := by
    obtain ⟨rfl, h⟩ := h
    exact since_ends _ h fun _ _ => rfl
  newObject cls c args args' w w' h hargs := by
    obtain ⟨rfl, h⟩ := h
    obtain ⟨rfl, hlate⟩ := args_eq_of_since hargs
    rw [World.newObject_eq]
    exact since_ends _ (le_minted_attempted h _) fun v hv => ⟨rfl, .of_make hv h hlate⟩
  newInts values w w' h := by
    obtain ⟨rfl, h⟩ := h
    refine since_ends _ (Nat.le_succ_of_le h) fun v hv => ?_
    cases hv
    exact ⟨rfl, .ints h values⟩
  newArray cls elements elements' w w' h helements := by
    obtain ⟨rfl, h⟩ := h
    obtain ⟨rfl, hlate⟩ := eq_of_since helements
    rw [World.newArray_eq]
    refine since_ends _ (le_minted_attempted h _) fun v hv => ⟨rfl, ?_⟩
    rw [ClassDef.eq_of_gather hv]
    exact .array h cls.name hlate

end World

/-- Everything at any depth of what a call makes is made by that call. -/
theorem Exporter.stampedFrom_of_marshal {e : Exporter ClassDef Constructor} {o : DecoderOutput}
    {w : World} {v : Value} (h : (e.marshal o w).1 = .ok v) : v.StampedFrom w.minted := by
  have hends := e.marshal_inStep (World.since_inStep w.minted) ⟨rfl, le_refl _⟩ o
  generalize e.marshal o w = x at h hends
  cases hends with
  | error f => cases h
  | ok part hst hlast hv =>
    cases h
    exact hv.2

namespace Bench

variable {b : Bench World Value} {v : Value}

theorem same_self_of_gather {cls : ClassDef} {stamp : Nat} {elements : List Value}
    (h : cls.gather stamp elements = .ok v) : ∀ x ∈ elements, x.sameObject x = true := by
  intro x hx
  have hclass := ClassDef.class?_of_gather h x hx
  cases x with
  | object stamp name fields => exact Value.sameObject_iff.2 ⟨stamp, rfl, rfl⟩
  | _ => cases hclass

/-- An array that is obtained holds the very objects that it is made of. -/
theorem elements_of_yields {ns : List Nat}
    (h : (∃ cls, b.Yields (.newArray cls ns) v) ∨ ∃ i, b.Yields (.hypotheses i ns) v) :
    ∃ elements, ns.mapM (b.obtained[·]?) = some elements ∧ v.elements? = some elements ∧
      ∀ x ∈ elements, x.sameObject x = true := by
  obtain ⟨elements, cls, hns, hgather⟩ : ∃ elements cls, ns.mapM (b.obtained[·]?) = some elements ∧
      ClassDef.gather cls b.host.minted elements = .ok v := by
    rcases h with ⟨cls, h⟩ | ⟨i, h⟩
    · obtain ⟨elements, hns, hgather⟩ := gather_of_yields h
      exact ⟨elements, cls, hns, hgather⟩
    · obtain ⟨elements, cls, -, hns, -, hgather⟩ := gather_of_yields_hypotheses h
      exact ⟨elements, cls, hns, hgather⟩
  refine ⟨elements, hns, ?_, same_self_of_gather hgather⟩
  rw [ClassDef.eq_of_gather hgather]
  rfl

/-- A translation that is obtained holds the very arrays that it is made of, unless its constructor
assigns something else to their fields as well. -/
theorem arrays_of_yields {configs : Nat → Config} (hb : Equipped configs b) {i n a : Nat}
    {text : String} {source : Option String} (h : b.Yields (.translation i text n a source) v) :
    ∃ nbest alignment cls c f g, b.obtained[n]? = some nbest ∧ b.obtained[a]? = some alignment ∧
      ((b.exporters i).translations.selected source).find b.host.model = .ok (cls, c) ∧
      nbest.sameObject nbest = true ∧ alignment.sameObject alignment = true ∧
      c.assigns[1]? = some f ∧ c.assigns[2]? = some g ∧
      (f ∉ c.assigns.drop 2 → v.field? f = some nbest) ∧
      (g ∉ c.assigns.drop 3 → v.field? g = some alignment) := by
  obtain ⟨nbest, alignment, cls, c, hn, ha, hfind, hmake⟩ := make_of_yields_translation h
  have he := hb i
  obtain ⟨-, hc⟩ := (he.fits.selected source).find hfind
  rw [he.follows.selected_signature] at hc
  obtain ⟨hnbest, halignment, f, g, hf, hg, hfield, hfield'⟩ :=
    ClassDef.arrays_of_make (List.mem_of_find?_eq_some hc) (signature_of_constructor? hc) hmake
  exact ⟨nbest, alignment, cls, c, f, g, hn, ha, hfind, hnbest, halignment, hf, hg, hfield,
    hfield'⟩

/-- What a call makes shares nothing with what was known before. -/
theorem apart_of_marshal {first : Nat} {t : Traced} (ht : t.Sound first)
    (hw : t.world = b.host) {i : Nat} {o : DecoderOutput} (h : b.Yields (.marshal i o) v) {x : Value}
    (hx : x.Part v) {z : Tracked} (hz : t.Knows z) : x.sameObject z.value = false := by
  have hmarshal : ((b.exporters i).marshal o b.host).1 = .ok v := eq_ok_of_obtain h
  have hlate := Exporter.stampedFrom_of_marshal hmarshal x
  rw [Bool.eq_false_iff]
  intro hsame
  obtain ⟨stamp, hxs, hzs⟩ := Value.sameObject_iff.1 hsame
  have hearly := hz.stamp_lt ht hzs
  rw [hw] at hearly
  exact absurd (hlate stamp hx hxs) (not_le.2 hearly)

/-- Two values on a bench are the same object exactly if they stem from one creation, and then they
show alike. What has no fields and no elements is no object. Arrays hold the very objects that they
are made of, and translations the very arrays. What a call makes shares nothing with the values
from before, the results of earlier calls among them. -/
theorem same_iff_same_creation (w : World) (configs : Nat → Config) (ops : List Op) :
    let b := (start w configs).run ops
    let t := (start (Traced.ofWorld w) configs).run ops
    b.obtained = t.obtained.map Tracked.value ∧
    (∀ x ∈ t.obtained, ∀ y ∈ t.obtained,
      (x.value.sameObject y.value = true ↔
        ∃ k creation, t.host.creations[k]? = some creation ∧ x.origin = some k ∧
          y.origin = some k) ∧
      (x.value.sameObject y.value = true →
        x.value.toJson.render = y.value.toJson.render)) ∧
    (∀ u v : Value, (u = .null ∨ (∃ s, u = .text s) ∨ ∃ f, u = .float f) →
      u.sameObject v = false ∧ v.sameObject u = false) ∧
    (∀ ns v, (∃ cls, b.Yields (.newArray cls ns) v) ∨ (∃ i, b.Yields (.hypotheses i ns) v) →
      ∃ elements, ns.mapM (b.obtained[·]?) = some elements ∧ v.elements? = some elements ∧
        ∀ x ∈ elements, x.sameObject x = true) ∧
    (∀ i text n a source v, b.Yields (.translation i text n a source) v →
      ∃ nbest alignment cls c f g, b.obtained[n]? = some nbest ∧
        b.obtained[a]? = some alignment ∧
        ((b.exporters i).translations.selected source).find b.host.model = .ok (cls, c) ∧
        nbest.sameObject nbest = true ∧ alignment.sameObject alignment = true ∧
        c.assigns[1]? = some f ∧ c.assigns[2]? = some g ∧
        (f ∉ c.assigns.drop 2 → v.field? f = some nbest) ∧
        (g ∉ c.assigns.drop 3 → v.field? g = some alignment)) ∧
    ∀ i o v, b.Yields (.marshal i o) v → ∀ x : Value, x.Part v →
      ∀ u ∈ b.obtained, ∀ y : Value, y.Part u → x.sameObject y = false := by
  intro b t
  have hrun := Traced.related_run w configs ops
  obtain ⟨hvalues, hknown⟩ := Traced.eq_map_of_forall₂ hrun.obtained
  have hsound := hrun.hosts.2
  refine ⟨hvalues, ?_, ?_, fun ns v => elements_of_yields,
    fun i text n a source v => arrays_of_yields (equipped_run w configs ops), ?_⟩
  · intro x hx y hy
    have hsame := (hknown x hx).sameObject_iff (hknown y hy) hsound
    refine ⟨hsame, fun h => ?_⟩
    obtain ⟨k, -, -, hxk, hyk⟩ := hsame.1 h
    rw [(hknown x hx).value_eq (hknown y hy) hxk hyk]
  · rintro u v (rfl | ⟨s, rfl⟩ | ⟨f, rfl⟩) <;> cases v <;> exact ⟨rfl, rfl⟩
  · intro i o v hv x hx u hu y hy
    obtain ⟨z, hz, rfl⟩ := Traced.known_of_obtained w configs ops hu hy
    exact apart_of_marshal hsound hrun.hosts.1 hv hx hz

def readCandidate : Candidate := ⟨"h", .ofBits Number.single 0, ""⟩

/-- A translation with one hypothesis is built, and its hypotheses are read. -/
def reading : List Op :=
  [.newInts [0, 1], .hypothesis 0 readCandidate, .hypotheses 0 [1], .translation 0 "t" 2 0 none,
    .field 3 "hypotheses"]

def plainReading : Bench World Value :=
  (start ⟨.withDefaultClasses, 0⟩ fun _ => {}).run reading

def tracedReading : Bench Traced Tracked :=
  (start (Traced.ofWorld ⟨.withDefaultClasses, 0⟩) fun _ => {}).run reading

/-- The array that is read out of the translation is the one that was built before. Another array
and another translation are made of what has been obtained, and a call makes a translation that
shares nothing with it. -/
theorem same_iff_same_creation_of_reading :
    (∃ x y, tracedReading.obtained[2]? = some x ∧ tracedReading.obtained[4]? = some y ∧
      x.value.sameObject y.value = true) ∧
    (∃ v, plainReading.Yields (.hypotheses 0 [1]) v ∧
      v.elements? = [1].mapM (plainReading.obtained[·]?)) ∧
    (∃ v, plainReading.Yields (.translation 0 "u" 4 0 (some "s")) v ∧
      v.field? "hypotheses" = plainReading.obtained[4]?) ∧
    ∃ v, plainReading.Yields (.marshal 0 ⟨"t", none, [], [⟨0, 1⟩]⟩) v ∧
      ∀ x : Value, x.Part v → ∀ u ∈ plainReading.obtained, x.sameObject u = false := by
  obtain ⟨-, hsame, -, harray, htranslation, hmarshal⟩ :=
    same_iff_same_creation ⟨.withDefaultClasses, 0⟩ (fun _ => {}) reading
  refine ⟨?_, ?_, ?_, ?_⟩
  · have hbuilt : tracedReading.obtained[2]? =
      some ⟨.array 2 defaultHypothesisClass [.ofCandidate 1 readCandidate], some 2⟩ := by rfl
    have hread : tracedReading.obtained[4]? =
      some ⟨.array 2 defaultHypothesisClass [.ofCandidate 1 readCandidate], some 2⟩ := by rfl
    have hcreation : (tracedReading.host.creations[2]?).isSome = true := by rfl
    obtain ⟨creation, hcreation⟩ := Option.isSome_iff_exists.1 hcreation
    exact ⟨_, _, hbuilt, hread, (hsame _ (List.mem_of_getElem? hbuilt) _
      (List.mem_of_getElem? hread)).1.2 ⟨2, creation, hcreation, rfl, rfl⟩⟩
  · have hyields : plainReading.Yields (.hypotheses 0 [1])
      (.array 4 defaultHypothesisClass [.ofCandidate 1 readCandidate]) := by rfl
    obtain ⟨elements, hpicked, helements, -⟩ := harray [1] _ (.inr ⟨0, hyields⟩)
    exact ⟨_, hyields, helements.trans hpicked.symm⟩
  · have hyields : plainReading.Yields (.translation 0 "u" 4 0 (some "s"))
      (.object 4 defaultTranslationClass [("text", .text "u"),
        ("hypotheses", .array 2 defaultHypothesisClass [.ofCandidate 1 readCandidate]),
        ("alignment", .ints 0 [0, 1]), ("source", .text "s")]) := by rfl
    have hfound : ((plainReading.exporters 0).translations.selected (some "s")).find
      plainReading.host.model = .ok (translationClass, translationConstructor (some "s")) := by rfl
    obtain ⟨nbest, -, cls, c, f, -, hn, -, hfind, -, -, hf, -, hfield, -⟩ :=
      htranslation 0 "u" 4 0 (some "s") _ hyields
    obtain ⟨rfl, rfl⟩ := Prod.mk.inj (Except.ok.inj (hfind.symm.trans hfound))
    obtain rfl : "hypotheses" = f := Option.some.inj hf
    exact ⟨_, hyields, (hfield (by decide)).trans hn.symm⟩
  · have hyields : plainReading.Yields (.marshal 0 ⟨"t", none, [], [⟨0, 1⟩]⟩)
      (.exported 4 ⟨"t", none, [], [⟨0, 1⟩]⟩ none [0, 1]) := by rfl
    exact ⟨_, hyields, fun x hx u hu => hmarshal 0 _ _ hyields x hx u hu u (.self u)⟩

end Bench

end DecoderExport
