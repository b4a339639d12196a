import DecoderExport.Proofs.Outcome
import Mathlib.Logic.Function.Basic

/-!
# One exporter among changing registries

A session is one exporter that takes turns with several object models, whose classes are registered
and replaced between the calls. All models draw their stamps from one counter. The exporter follows
its configuration in every session that starts from it, and what each of its handles holds fits that
handle, whichever registry it came from.
-/

namespace DecoderExport

/-- Object models by number, the number of objects made so far, and an exporter. -/
structure Session where
  models : Nat → ObjectModel
  minted : Nat
  exporter : Exporter ClassDef Constructor

namespace Session

/-- What may happen in a session. -/
inductive Event where
  /-- A class is registered in a model, or takes the place of another one there. -/
  | register (model : Nat) (cls : ClassDef)
  | marshal (model : Nat) (output : DecoderOutput)

/-- A session with an exporter in which nothing has been looked up. -/
def start (config : Config) (models : Nat → ObjectModel) (minted : Nat) : Session :=
  ⟨models, minted, .ofConfig config⟩

/-- A call of the exporter on a model. -/
def call (s : Session) (model : Nat) (o : DecoderOutput) :
    Except (Fault Empty) Value × Exporter ClassDef Constructor × World :=
  s.exporter.marshal o ⟨s.models model, s.minted⟩

/-- The session after an event. -/
def step (s : Session) : Event → Session
  | .register model cls =>
    { s with models := Function.update s.models model ((s.models model).register cls) }
  | .marshal model o =>
    let (_, exporter, w) := s.call model o
    ⟨Function.update s.models model w.model, w.minted, exporter⟩

/-- The session after some events. -/
def run (s : Session) (events : List Event) : Session := events.foldl step s

/-- The exporter of a session follows a configuration, and its handles hold what they ask for. -/
structure Sound (config : Config) (s : Session) : Prop where
  follows : s.exporter.Follows config
  fits : s.exporter.Each Handle.Fits

variable {config : Config} {s : Session}

theorem sound_start (config : Config) (models : Nat → ObjectModel) (minted : Nat) :
    Sound config (start config models minted) :=
  ⟨rfl, ⟨nofun, nofun, nofun⟩⟩

theorem exporter_step_marshal (s : Session) (model : Nat) (o : DecoderOutput) :
    (s.step (.marshal model o)).exporter = s.exporter.afterwards o (s.models model) s.minted :=
  s.exporter.exporter_marshal o ⟨s.models model, s.minted⟩

theorem Sound.step (hs : Sound config s) (event : Event) : Sound config (s.step event) := by
  cases event with
  | register model cls => exact ⟨hs.follows, hs.fits⟩
  | marshal model o =>
    constructor
    · rw [exporter_step_marshal]
      exact hs.follows.afterwards o _ _
    · rw [exporter_step_marshal]
      exact hs.fits.afterwards (fun _ h => h.settled _) _

theorem Sound.run (hs : Sound config s) (events : List Event) : Sound config (s.run events) := by
  induction events generalizing s with
  | nil => exact hs
  | cons event events ih => exact ih (hs.step event)

/-- All models know the classes of one registry, from which the exporter has what it holds. -/
structure Uniform (config : Config) (m : ObjectModel) (s : Session) : Prop where
  classes : ∀ i, (s.models i).classes = m.classes
  serves : s.exporter.Serves config m

theorem uniform_start (config : Config) (m : ObjectModel) (minted : Nat) :
    Uniform config m (start config (fun _ => m) minted) :=
  ⟨fun _ => rfl, .ofConfig config m⟩

theorem models_step_marshal (s : Session) (model : Nat) (o : DecoderOutput) :
    (s.step (.marshal model o)).models =
      Function.update s.models model (s.exporter.consulted o (s.models model) s.minted) := by
  have h := s.exporter.model_marshal o ⟨s.models model, s.minted⟩
  rw [← h]
  rfl

/-- Calls leave a uniform session uniform. -/
theorem Uniform.step_marshal {m : ObjectModel} (hs : Uniform config m s) (model : Nat)
    (o : DecoderOutput) : Uniform config m (s.step (.marshal model o)) := by
  constructor
  · intro i
    rw [models_step_marshal]
    by_cases hi : i = model
    · subst hi
      rw [Function.update_self, Exporter.classes_consulted, hs.classes]
    · rw [Function.update_of_ne hi, hs.classes]
  · rw [exporter_step_marshal, Exporter.afterwards_congr _ _ (hs.classes model)]
    exact hs.serves.afterwards o _

theorem Uniform.run_marshals {m : ObjectModel} (hs : Uniform config m s)
    (calls : List (Nat × DecoderOutput)) :
    Uniform config m (s.run (calls.map fun (model, o) => .marshal model o)) := by
  induction calls generalizing s with
  | nil => exact hs
  | cons call calls ih => exact ih (hs.step_marshal call.1 call.2)

theorem Uniform.fst_call {m : ObjectModel} (hs : Uniform config m s) (model : Nat)
    (o : DecoderOutput) : (s.call model o).1 = s.exporter.outcome o m s.minted := by
  rw [call, Exporter.fst_marshal, Exporter.outcome_congr _ _ (hs.classes model)]

end Session

end DecoderExport
