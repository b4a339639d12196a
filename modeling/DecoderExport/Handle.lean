import DecoderExport.Host

/-!
# Handles on constructors

A handle names a class and the signature of one of its constructors. It looks both up when they are
first needed and keeps them from then on; a lookup that fails is not kept, so it is tried again.
-/

namespace DecoderExport

/-- A constructor that is looked up once. -/
structure Handle (γ κ : Type) where
  className : String
  signature : Signature
  /-- The class and the constructor, once they have been found. -/
  resolved : Option (γ × κ) := none

namespace Handle

variable {σ ω γ κ ρ : Type}

/-- Whether the constructor has been found. -/
def isResolved (h : Handle γ κ) : Bool := h.resolved.isSome

/-- The class and the constructor of a handle. -/
def resolve [Host σ ω γ κ ρ] (h : Handle γ κ) (s : σ) :
    Except (Fault ρ) (γ × κ) × Handle γ κ × σ :=
  match h.resolved with
  | some found => (.ok found, h, s)
  | none =>
    match Host.findClass h.className s with
    | (.error e, s) => (.error e, h, s)
    | (.ok cls, s) =>
      match Host.findConstructor cls h.signature s with
      | (.error e, s) => (.error e, h, s)
      | (.ok c, s) => (.ok (cls, c), { h with resolved := some (cls, c) }, s)

/-- Builds an object with the constructor of a handle. -/
def create [Host σ ω γ κ ρ] (h : Handle γ κ) (args : List (Arg ω)) (s : σ) :
    Except (Fault ρ) ω × Handle γ κ × σ :=
  match h.resolve s with
  | (.error e, h, s) => (.error e, h, s)
  | (.ok (cls, c), h, s) =>
    let (reply, s) := Host.newObject cls c args s
    (reply, h, s)

/-- Builds an array of objects of the class of a handle. The constructor is looked up as well. -/
def createArray [Host σ ω γ κ ρ] (h : Handle γ κ) (elements : List ω) (s : σ) :
    Except (Fault ρ) ω × Handle γ κ × σ :=
  match h.resolve s with
  | (.error e, h, s) => (.error e, h, s)
  | (.ok (cls, _), h, s) =>
    let (reply, s) := Host.newArray cls elements s
    (reply, h, s)

end Handle

end DecoderExport
