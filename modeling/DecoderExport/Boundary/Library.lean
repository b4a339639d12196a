import DecoderExport.Boundary.Context
import DecoderExport.Boundary.IntArray
import DecoderExport.Boundary.LogFilter

/-!
# Calls across the boundary

The library keeps the contexts that callers have opened, each under a number of its own, and the
text of the last error. `Library.step` answers one call in the environment that holds while it is
made.

A call that can fail first forgets the last error, so afterwards there is one exactly if this call
has failed. The calls that only look or tidy up leave it alone.
-/

namespace DecoderExport.Boundary

/-- What a caller asks for. A place for the result may be absent. -/
inductive Call where
  | version
  | lastError
  | clearError
  | initLogging (filter : Argument)
  | openContext (config : Argument)
  | closeContext (context : Option Nat)
  | exportIn (context : Option Nat) (input : Argument) (hasPlace : Bool)
  /-- Exports with a context of its own. -/
  | exportOnce (input config : Argument) (hasPlace : Bool)
  /-- Flattens as many pairs of indices as are announced. -/
  | encodeAlignment (indices : Option (List UInt64)) (announced : Nat) (hasPlace : Bool)
  /-- Gives back a text that was handed over. -/
  | releaseText (out : Option CString)
  /-- Gives back an array that was handed over. -/
  | releaseArray (array : IntArray)

/-- What a caller gets. Nothing is written to a place for the result that is left alone; what is
written to a place for a text may be null. -/
inductive Answer where
  | text (s : String)
  | message (last : Option String)
  | done
  | status (s : Status)
  | context (number : Option Nat)
  | output (s : Status) (written : Option (Option CString))
  | array (s : Status) (written : Option IntArray)

/-- The open contexts and the last error. -/
structure Library where
  contexts : List (Nat × Context)
  /-- The number that the next context gets. -/
  next : Nat
  lastError : Option String

namespace Library

/-- The library before the first call. -/
def fresh : Library := ⟨[], 0, none⟩

/-- The version of the library. -/
def version : String := "0.1.0"

/-- The filter when none is given. -/
def defaultFilter : String := "warn"

/-- The open context with a number. -/
def context? (lib : Library) (number : Option Nat) : Option Context :=
  number.bind fun n => lib.contexts.lookup n

/-- The library with another state of an open context. -/
def update (lib : Library) (number : Option Nat) (c : Context) : Library :=
  { lib with contexts := lib.contexts.map fun (n, old) => (n, if some n = number then c else old) }

/-- The status of an outcome, and the library with the last error that belongs to it. -/
def settle {α : Type} (lib : Library) : Except Failure α → Status × Option α × Library
  | .ok a => (.success, some a, { lib with lastError := none })
  | .error failure =>
    (failure.status, none, { lib with lastError := some (reportable failure.message) })

/-- Accepts a log filter. Logging itself is no business of this library. -/
def acceptFilter (filter : Argument) : Except Failure Unit := do
  let filter ← filter.elim (pure defaultFilter) CString.text
  (LogFilter.check filter).mapError fun trouble =>
    ⟨.invalidInput, s!"Invalid log filter '{filter}': {trouble.message}"⟩

/-- Ends an export whose text is there, or why it is not. The text goes to the place of the caller.
-/
def deliver (lib : Library) : Except Failure String → Answer × Library
  | .error failure =>
    let (status, _, lib) := lib.settle (α := Unit) (.error failure)
    (.output status none, lib)
  | .ok text =>
    let (written, outcome) := writeOutput text
    let (status, _, lib) := lib.settle outcome
    (.output status (some written), lib)

/-- Exports with a context, and the context afterwards. -/
def exportWith (c : Context) (input : CString) : Except Failure String × Context :=
  match input.text with
  | .error failure => (.error failure, c)
  | .ok text => c.exportJson text

/-- Exports in an open context. -/
def exportIn (lib : Library) (number : Option Nat) (input : Argument) (hasPlace : Bool) :
    Except Failure String × Library :=
  match lib.context? number, input with
  | none, _ => (.error (.absent "context"), lib)
  | some _, none => (.error (.absent "decoder_output_json"), lib)
  | some c, some input =>
    if hasPlace then
      let (outcome, c) := exportWith c input
      (outcome, lib.update number c)
    else (.error (.absent "out_json"), lib)

/-- Exports with a context that is opened for this one call. -/
def exportOnce (env : Environment) (input config : Argument) (hasPlace : Bool) :
    Except Failure String :=
  match input with
  | none => .error (.absent "decoder_output_json")
  | some input =>
    if hasPlace then do
      let config ← loadConfig env config
      (exportWith (.ofConfig config) input).1
    else .error (.absent "out_json")

/-- The pairs in a list of indices, two each; an index without partner is left out. -/
def pairUp : List UInt64 → List AlignmentPair
  | source :: target :: rest => ⟨source, target⟩ :: pairUp rest
  | _ => []

/-- How many indices can be addressed. -/
def addressable : Nat := 18446744073709551616

/-- The pairs that a caller has announced. -/
def announcedPairs (indices : Option (List UInt64)) (announced : Nat) :
    Except Failure (List AlignmentPair) :=
  if announced = 0 then .ok []
  else
    match indices with
    | none => .error (.absent "pairs")
    | some indices =>
      if 2 * announced < addressable then .ok ((pairUp indices).take announced)
      else .error ⟨.invalidInput, "pair_count overflows"⟩

/-- The array with the flat form of the pairs that a caller has announced. -/
def encodeAnnounced (indices : Option (List UInt64)) (announced : Nat) (hasPlace : Bool) :
    Except Failure IntArray :=
  if hasPlace then do
    let pairs ← announcedPairs indices announced
    let alignment ← (Alignment.encode pairs : Except (Fault Empty) Alignment).mapError .ofFault
    return .allocate alignment.flat
  else .error (.absent "out")

/-- Answers a call. -/
def step (env : Environment) (lib : Library) : Call → Answer × Library
  | .version => (.text version, lib)
  | .lastError => (.message lib.lastError, lib)
  | .clearError => (.done, { lib with lastError := none })
  | .initLogging filter =>
    let (status, _, lib) := lib.settle (acceptFilter filter)
    (.status status, lib)
  | .openContext config =>
    let (_, opened, lib) := lib.settle (loadConfig env config)
    match opened with
    | none => (.context none, lib)
    | some config =>
      (.context (some lib.next),
        { lib with
          contexts := (lib.next, .ofConfig config) :: lib.contexts
          next := lib.next + 1 })
  | .closeContext number =>
    (.done, { lib with contexts := lib.contexts.filter fun (n, _) => some n ≠ number })
  | .exportIn number input hasPlace =>
    let (outcome, lib) := lib.exportIn number input hasPlace
    lib.deliver outcome
  | .exportOnce input config hasPlace => lib.deliver (exportOnce env input config hasPlace)
  | .encodeAlignment indices announced hasPlace =>
    let (status, written, lib) := lib.settle (encodeAnnounced indices announced hasPlace)
    (.array status written, lib)
  | .releaseText _ => (.done, lib)
  | .releaseArray _ => (.done, lib)

end Library

end DecoderExport.Boundary
