import DecoderExport.Payload
import DecoderExport.Scripting.Member

/-!
# Data of the scripting host

Numbers, texts and tuples never change, and neither do hypotheses and translations: they are data
that carry their contents, with a stamp that tells two of them apart. Lists, exporters and other
objects can change; they are known by address, and the interpreter keeps what they hold. Classes,
modules and routines are data too.
-/

namespace DecoderExport.Scripting

open DecoderExport.Number (Single Double)

/-- A datum of the scripting host. What is written in a program has the stamp 0. -/
inductive Datum where
  | nothing
  | bool (b : Bool)
  | int (stamp : Nat) (n : Int)
  | float (stamp : Nat) (x : Double)
  | text (stamp : Nat) (s : String)
  | tuple (stamp : Nat) (items : List Datum)
  | list (address : Nat)
  | hypothesis (stamp : Nat) (c : Candidate)
  /-- A translation holds what it has been given, be it hypotheses or not. -/
  | translation (stamp : Nat) (text : String) (hypotheses : List Datum) (alignment : List Int32)
      (source : Option String)
  | exporter (address : Nat)
  | object (address : Nat) (cls : ScriptClass)
  | cls (c : ScriptClass)
  | module (m : ScriptModule)
  | routine (r : Routine)
  /-- A routine together with the datum on which it is called. -/
  | bound (stamp : Nat) (r : Routine) (receiver : Datum)
  /-- Something of which no answer shows more than its class. -/
  | foreign (stamp : Nat) (typeName : String)

/-- Names and what they stand for, in the order in which they were first bound. -/
abbrev Names := List (String × Datum)

/-- Binds a name. One that is bound already keeps its place. -/
def Names.put (name : String) (d : Datum) : Names → Names
  | [] => [(name, d)]
  | (n, e) :: rest => if n = name then (n, d) :: rest else (n, e) :: Names.put name d rest

/-- Forgets a name. -/
def Names.drop (name : String) (names : Names) : Names := names.filter (·.1 ≠ name)

/-- What the lists of an interpreter hold, by address. -/
abbrev Lists := List (Nat × List Datum)

/-- What the list at an address holds. -/
def Lists.items (lists : Lists) (address : Nat) : List Datum := (lists.lookup address).getD []

namespace Datum

/-- The name of the class of a routine, on its own or together with what it is called on. -/
def routineClass : Form → Bool → String
  | .method, isBound => if isBound then "builtin_function_or_method" else "method_descriptor"
  | .operation, isBound => if isBound then "method-wrapper" else "wrapper_descriptor"
  | .static, _ => "builtin_function_or_method"
  | .defined, isBound => if isBound then "method" else "function"

/-- The class of a datum. -/
def classOf : Datum → ScriptClass
  | nothing => .standard "NoneType"
  | bool _ => .standard "bool"
  | int _ _ => .standard "int"
  | float _ _ => .standard "float"
  | text _ _ => .standard "str"
  | tuple _ _ => .standard "tuple"
  | list _ => .standard "list"
  | hypothesis _ _ => .own .hypothesis
  | translation _ _ _ _ _ => .own .translation
  | exporter _ => .own .exporter
  | object _ c => c
  | cls c => c.cls
  | module _ => .standard "module"
  | routine r => .standard (routineClass r.form false)
  | bound _ r _ => .standard (routineClass r.form true)
  | foreign _ name => .standard name

/-- The name of the class of a datum, as most messages put it. -/
def typeName (d : Datum) : String := d.classOf.typeName

/-- A text that a program holds. -/
def constant (s : String) : Datum := text 0 s

/-- Data that are made one after the other, from a stamp on. -/
def numbered {α : Type} (make : Nat → α → Datum) (first : Nat) (values : List α) : List Datum :=
  values.zipIdx.map fun (v, i) => make (first + i) v

/-- A 32-bit number as a datum. -/
def ofSingle (stamp : Nat) (x : Single) : Datum := float stamp (x.convert Number.double)

/-- A 32-bit integer as a datum. -/
def ofInt32 (stamp : Nat) (v : Int32) : Datum := int stamp v.toInt

/-- A text that may be absent as a datum. -/
def ofText? (stamp : Nat) : Option String → Datum
  | some s => text stamp s
  | none => nothing

/-- A pair of indices as a datum, which takes three stamps. -/
def ofPair (stamp : Nat) (p : AlignmentPair) : Datum :=
  tuple stamp [int (stamp + 1) p.source.toNat, int (stamp + 2) p.target.toNat]

/-- Whether a datum differs from itself, as a number that is none does. -/
def differsFromItself : Datum → Bool
  | float _ x => x.isNaN
  | hypothesis _ c => c.score.isNaN
  | _ => false

/-- Whether two data are one and the same. Small numbers and short texts exist only once; other
numbers and texts are the same if they have been made at once. -/
def isSame : Datum → Datum → Bool
  | nothing, nothing => true
  | bool a, bool b => a = b
  | int s a, int t b => a = b && (s = t || -5 ≤ a && a ≤ 256)
  | float s _, float t _ => s = t
  | text s a, text t b =>
    a = b && (s = t || a = "" || a.length = 1 && a.toList.all (·.toNat < 256))
  | tuple _ [], tuple _ [] => true
  | tuple s _, tuple t _ => s = t
  | list a, list b => a = b
  | hypothesis s _, hypothesis t _ => s = t
  | translation s _ _ _ _, translation t _ _ _ _ => s = t
  | exporter a, exporter b => a = b
  | object a _, object b _ => a = b
  | cls c, cls d => c = d
  | module m, module n => m = n
  | routine r, routine q => r = q
  | bound s _ _, bound t _ _ => s = t
  | foreign s a, foreign t b => s = t && a = b
  | _, _ => false

/-- How a 64-bit number is written. -/
def floatStyle : Number.Style := ⟨.even, ⟨some (-4, 15), true, 2⟩⟩

/-- How a 32-bit number is shown inside a hypothesis. -/
def scoreStyle : Number.Style := ⟨.away, ⟨none, false, 1⟩⟩

/-- The text of a 64-bit number. -/
def floatText (x : Double) : String :=
  if x.isNaN then "nan"
  else if x.isInfinite then if x.negative then "-inf" else "inf"
  else String.ofList (floatStyle.text x)

/-- The text of the score of a hypothesis. -/
def scoreText (x : Single) : String :=
  if x.isNaN then "NaN"
  else if x.isInfinite then if x.negative then "-inf" else "inf"
  else String.ofList (scoreStyle.text x)

/-- The text that shows a hypothesis. -/
def showHypothesis (c : Candidate) : String :=
  "Hypothesis(text=" ++ Text.quote c.text ++ ", total_score=" ++ scoreText c.score ++
    ", feature_values=" ++ Text.quote c.features ++ ")"

/-- The text that shows a translation. -/
def showTranslation (text : String) (count : Nat) (alignment : List Int32)
    (source : Option String) : String :=
  "Translation(text=" ++ Text.quote text ++ ", hypotheses=" ++ toString count ++
    ", alignment_pairs=" ++ toString (alignment.length / 2) ++ ", source=" ++
    source.elim "None" (fun s => "Some(" ++ Text.quote s ++ ")") ++ ")"

/-- The number of items of a datum that has a length. -/
def length? (lists : Lists) : Datum → Option Nat
  | text _ s => some s.length
  | list a => some (lists.items a).length
  | tuple _ items => some items.length
  | translation _ _ hypotheses _ _ => some hypotheses.length
  | _ => none

end Datum

end DecoderExport.Scripting
