import DecoderExport.Scripting.Compare
import DecoderExport.Scripting.Interpreter

/-!
# How data are shown

Each datum has a text that shows it, from which its class can be told, and a plain text. The two are
the same for most data, but the plain text of a text is that text itself, and exceptions say in
their plain texts what went wrong.
-/

namespace DecoderExport.Scripting

namespace Interpreter

/-- A class between angle brackets. -/
def showClass (c : ScriptClass) : String :=
  "<class '" ++ (if c.home = .standard then c.name else c.fullName) ++ "'>"

/-- A routine between angle brackets. -/
def showRoutine (r : Routine) : String :=
  match r.owner, r.form with
  | some owner, .operation => s!"<slot wrapper '{r.name}' of '{owner.typeName}' objects>"
  | some owner, .method => s!"<method '{r.name}' of '{owner.typeName}' objects>"
  | some owner, _ => s!"<function {owner.name}.{r.name}>"
  | none, _ => s!"<built-in function {r.name}>"

/-- The text that shows a datum, as far down as a depth allows to go, inside other data that are
being shown. A list inside itself is left out. -/
def shownWithin (s : Interpreter) : Nat → List Datum → Datum → Option String
  | 0, _, _ => none
  | depth + 1, outer, d =>
    let all := fun (opening closing : String) (items : List Datum) =>
      if outer.any d.isSame then some (opening ++ "..." ++ closing)
      else (items.mapM (s.shownWithin depth (d :: outer))).map fun texts =>
        let comma := if opening = "(" && items.length = 1 then "," else ""
        opening ++ ", ".intercalate texts ++ comma ++ closing
    match d with
    | .nothing => some "None"
    | .bool b => some (if b then "True" else "False")
    | .int _ n => some (toString n)
    | .float _ x => some (Datum.floatText x)
    | .text _ t => some (Text.quoteScript t)
    | .tuple _ [] => some "()"
    | .tuple _ items => all "(" ")" items
    | .list a => all "[" "]" (s.lists.items a)
    | .hypothesis _ c => some (Datum.showHypothesis c)
    | .translation _ body hypotheses alignment source =>
      some (Datum.showTranslation body hypotheses.length alignment source)
    | .object a c =>
      let held := s.contents a
      if c.isException then
        match held.arguments with
        | .tuple _ [item] =>
          (s.shownWithin depth outer item).map fun t => c.name ++ "(" ++ t ++ ")"
        | arguments => (s.shownWithin depth outer arguments).map (c.name ++ ·)
      else if c = .standard "slice" then
        let bounds := ["start", "stop", "step"].map fun n => (held.fields.lookup n).getD .nothing
        (bounds.mapM (s.shownWithin depth outer)).map fun texts =>
          "slice(" ++ ", ".intercalate texts ++ ")"
      else some ("<" ++ c.fullName ++ " object>")
    | .cls c => some (showClass c)
    | .module m => some ("<module '" ++ m.name ++ "'>")
    | .routine r => some (showRoutine r)
    | .foreign _ "NotImplementedType" => some "NotImplemented"
    | d => some ("<" ++ d.classOf.fullName ++ " object>")

/-- The text that shows a datum. -/
def shown (s : Interpreter) (d : Datum) : Except Raised String :=
  match s.shownWithin Datum.depthLimit [] d with
  | some text => .ok text
  | none => .error (.tooDeep "while getting the repr of an object")

/-- What a syntax error says after its message about where it is. -/
def whereabouts (fields : Names) : String :=
  let file := match fields.lookup "filename" with
    | some (.text _ path) =>
      some (String.ofList (path.toList.reverse.takeWhile (· ≠ '/')).reverse)
    | _ => none
  let line := match fields.lookup "lineno" with
    | some (.int _ n) => some s!"line {n}"
    | _ => none
  match file.toList ++ line.toList with
  | [] => ""
  | parts => " (" ++ ", ".intercalate parts ++ ")"

/-- The plain text of a datum, as far down as a depth allows to go. That of an exception is its
argument if it has one, else all of them; a missing key is shown, and exceptions with fields of
their own speak of those. -/
def plainWithin (s : Interpreter) : Nat → Datum → Except Raised String
  | 0, _ => .error (.tooDeep "while getting the str of an object")
  | depth + 1, d =>
    match d with
    | .text _ t => .ok t
    | .object a c =>
      if !c.isException then s.shown d
      else do
        let held := s.contents a
        let field name := (held.fields.lookup name).getD .nothing
        let isSet name := (held.fields.lookup name).isSome
        let said ← match held.arguments with
          | .tuple _ [] => pure ""
          | .tuple _ [item] =>
            if c.isKindOf (.standard "KeyError") then s.shown item else s.plainWithin depth item
          | arguments => s.shown arguments
        let isKnown := isSet "filename" || isSet "errno" && isSet "strerror"
        if c.isKindOf (.standard "OSError") && isKnown then
          let errno ← s.plainWithin depth (field "errno")
          let lead := "[Errno " ++ errno ++ "] " ++ (← s.plainWithin depth (field "strerror"))
          if !isSet "filename" then return lead
          let lead := lead ++ ": " ++ (← s.shown (field "filename"))
          if isSet "filename2" then return lead ++ " -> " ++ (← s.shown (field "filename2"))
          return lead
        else if c.isKindOf (.standard "SyntaxError") then
          return (← s.plainWithin depth (field "msg")) ++ whereabouts held.fields
        else
          match c.isKindOf (.standard "ImportError"), field "msg" with
          | true, .text _ t => return t
          | _, _ => return said
    | d => s.shown d

/-- The plain text of a datum. -/
def textOf (s : Interpreter) (d : Datum) : Except Raised String := s.plainWithin Datum.depthLimit d

end Interpreter

end DecoderExport.Scripting
