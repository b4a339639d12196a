import DecoderExport.Alignment

/-!
# Hosts of managed objects

A host is where the results live. It finds classes by name and constructors by signature, and it
builds objects. Each operation takes the state of the host and returns it, also when it fails,
because a failed operation may have left a trace.
-/

namespace DecoderExport

open DecoderExport.Number (Single)

/-- An argument of a constructor. -/
inductive Arg (ω : Type) where
  | text (s : String)
  | float (x : Single)
  | object (o : ω)

/-- The outcome of an operation and the state after it. -/
abbrev Reply (σ ρ α : Type) := Except (Fault ρ) α × σ

/-- The operations of a host with state `σ`, objects `ω`, classes `γ`, constructors `κ`, and things
`ρ` that a class may raise. -/
class Host (σ : Type) (ω γ κ ρ : outParam Type) where
  findClass : String → σ → Reply σ ρ γ
  findConstructor : γ → Signature → σ → Reply σ ρ κ
  newObject : γ → κ → List (Arg ω) → σ → Reply σ ρ ω
  newInts : List Int32 → σ → Reply σ ρ ω
  newArray : γ → List ω → σ → Reply σ ρ ω

end DecoderExport
