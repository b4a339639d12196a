import DecoderExport.Proofs.HostRelation

/-!
# Maps between hosts

A map takes the states of one host to states of another, and every operation gives the same reply on
either side. Then the two hosts run in step, so an exporter cannot tell them apart
(`Exporter.marshal_map`).
-/

namespace DecoderExport

variable {σ τ ω γ κ ρ α : Type} [Host σ ω γ κ ρ] [Host τ ω γ κ ρ]

/-- Whether every operation gives the same reply before and after a map, in states that the map
takes to each other. -/
structure Host.Respects (f : σ → τ) : Prop where
  findClass (name : String) (s : σ) :
    Host.findClass name (f s) = (Host.findClass name s).map id f
  findConstructor (cls : γ) (signature : Signature) (s : σ) :
    Host.findConstructor cls signature (f s) = (Host.findConstructor cls signature s).map id f
  newObject (cls : γ) (c : κ) (args : List (Arg ω)) (s : σ) :
    Host.newObject cls c args (f s) = (Host.newObject cls c args s).map id f
  newInts (values : List Int32) (s : σ) :
    Host.newInts values (f s) = (Host.newInts values s).map id f
  newArray (cls : γ) (elements : List ω) (s : σ) :
    Host.newArray cls elements (f s) = (Host.newArray cls elements s).map id f

theorem Arg.eq_of_related {a b : Arg ω} (h : a.Related Eq b) : a = b := by
  cases h with
  | text s => rfl
  | float x => rfl
  | object h => rw [h]

namespace HostRelation

/-- A state is related to what a map takes it to, and an object to itself. -/
def ofMap (f : σ → τ) : HostRelation σ τ ω ω := ⟨fun s t => t = f s, fun _ => Eq⟩

theorem ends_map (f : σ → τ) (s : σ) (x : Except (Fault ρ) α × σ) :
    (ofMap (ω := ω) f).Ends s (fun _ => Eq) x (x.map id f) := by
  obtain ⟨f' | a, s'⟩ := x
  · exact .error f' rfl fun _ _ h => h
  · exact .ok rfl (fun _ _ h => h) rfl

theorem inStep_ofMap {f : σ → τ} (hf : Host.Respects f) : (ofMap (ω := ω) f).InStep where
  findClass name s t h := by
    rw [h, hf.findClass]
    exact ends_map f s _
  findConstructor cls signature s t h := by
    rw [h, hf.findConstructor]
    exact ends_map f s _
  newObject cls c args args' s t h hargs := by
    obtain rfl : args = args' := by
      have heq := hargs.imp fun _ _ => Arg.eq_of_related
      rwa [List.forall₂_eq_eq_eq] at heq
    rw [h, hf.newObject]
    exact ends_map f s _
  newInts values s t h := by
    rw [h, hf.newInts]
    exact ends_map f s _
  newArray cls elements elements' s t h helements := by
    obtain rfl : elements = elements' := by
      have heq : List.Forall₂ Eq elements elements' := helements
      rwa [List.forall₂_eq_eq_eq] at heq
    rw [h, hf.newArray]
    exact ends_map f s _

end HostRelation

/-- A call gives the same reply and leaves the same exporter, in states that a map takes to each
other. -/
theorem Exporter.marshal_map {f : σ → τ} (hf : Host.Respects f) (e : Exporter γ κ)
    (o : DecoderOutput) (s : σ) : e.marshal o (f s) = (e.marshal o s).map id (.map id f) := by
  have hst : (HostRelation.ofMap (ω := ω) f).states s (f s) := rfl
  have hends := e.marshal_inStep (HostRelation.inStep_ofMap hf) hst o
  generalize e.marshal o s = x, e.marshal o (f s) = y at hends
  cases hends with
  | error g part hst hlast =>
    rw [hst]
    rfl
  | ok part hst hlast hab =>
    rw [hst, hab]
    rfl

end DecoderExport
