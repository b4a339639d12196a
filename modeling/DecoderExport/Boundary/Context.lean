import DecoderExport.Boundary.CString
import DecoderExport.Exporter
import DecoderExport.Objects.Model
import DecoderExport.Payload.Reader

/-!
# Contexts

A context is what a caller keeps between two calls: an exporter and an object model of its own, with
the default classes. It reads a decoder output from JSON text and renders the result as JSON text.
-/

namespace DecoderExport.Boundary

/-- An exporter with the world that it builds in. -/
structure Context where
  exporter : Exporter ClassDef Constructor
  world : World

namespace Context

/-- A context in which nothing has been looked up. -/
def ofConfig (c : Config) : Context := ⟨.ofConfig c, ⟨.withDefaultClasses, 0⟩⟩

/-- The decoder output that a text spells. -/
def readOutput (input : String) : Except Failure DecoderOutput :=
  match DecoderOutput.reader.whole input with
  | .ok output => .ok output
  | .error refusal => .error ⟨.jsonError, s!"Invalid decoder output JSON: {refusal.message}"⟩

/-- The JSON text of the translation that a decoder output stands for, and the context afterwards.
-/
def exportOutput (c : Context) (output : DecoderOutput) : Except Failure String × Context :=
  match c.exporter.marshal output c.world with
  | (.ok v, exporter, world) => (.ok v.toJson.render, ⟨exporter, world⟩)
  | (.error fault, exporter, world) => (.error (.ofFault fault), ⟨exporter, world⟩)

/-- The JSON text of the translation for a decoder output in JSON text. -/
def exportJson (c : Context) (input : String) : Except Failure String × Context :=
  match readOutput input with
  | .error failure => (.error failure, c)
  | .ok output => c.exportOutput output

end Context

/-- The configuration that an argument spells, with the overrides of the environment. An absent
argument stands for the defaults. -/
def loadConfig (env : Environment) (config : Argument) : Except Failure Config := do
  let base ← match config with
    | none => pure {}
    | some text => (Config.ofJson (← text.text) : Except (Fault Empty) Config).mapError .ofFault
  (base.override env : Except (Fault Empty) Config).mapError .ofFault

/-- What is written to the place for a result, and how that ends. A text with a zero byte cannot be
handed over, and then null is written. -/
def writeOutput (result : String) : Option CString × Except Failure Unit :=
  match CString.ofText? result with
  | some out => (some out, .ok ())
  | none => (none, .error ⟨.memoryError, "String contains null byte"⟩)

end DecoderExport.Boundary
