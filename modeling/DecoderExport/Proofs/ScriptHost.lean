import DecoderExport.Proofs.AlignmentCodec
import DecoderExport.Proofs.Stages
import DecoderExport.Scripting.Calls

/-!
# Exporters of scripts with the classes of their own module

The classes of the exporter module are found under their full names in every state of the
interpreter and take whatever an exporter hands them. So all that can fail in an export is the
encoding of the alignment, and the exporter never holds another class than these, however scripts
use it.
-/

namespace DecoderExport

open DecoderExport.Scripting

/-- A candidate whose score has passed through the wider format. -/
def Candidate.widened (c : Candidate) : Candidate :=
  { c with score := (c.score.convert Number.double).convert Number.single }

namespace Scripting

/-- What a lookup of a class of the exporter module leads to. -/
def OwnClass.found (c : OwnClass) : ClassPath × ScriptClass :=
  (⟨(ScriptClass.own c).fullName, .own c⟩, .own c)

theorem findClass_own (c : OwnClass) (s : Interpreter) :
    Host.findClass (ScriptClass.own c).fullName s = (.ok c.found.1, s) := by
  cases c <;> rfl

theorem findConstructor_own {c : OwnClass} {signature : Signature}
    (h : (ScriptClass.own c).objection? signature.arity = none) (s : Interpreter) :
    Host.findConstructor c.found.1 signature s = (.ok c.found.2, s) := by
  simp only [Host.findConstructor, OwnClass.found, h]

/-- A datum is the hypothesis for a candidate. -/
def Datum.IsHypothesis (d : Datum) (c : Candidate) : Prop :=
  ∃ stamp, d = .hypothesis stamp c.widened

theorem classOf_of_isHypothesis {objects : List Datum} {cs : List Candidate}
    (h : List.Forall₂ Datum.IsHypothesis objects cs) :
    ∀ d ∈ objects, d.classOf = .own .hypothesis := by
  induction h with
  | nil => exact nofun
  | cons hd _ ih =>
    obtain ⟨stamp, rfl⟩ := hd
    exact List.forall_mem_cons.2 ⟨rfl, ih⟩

/-- The class of hypotheses takes every candidate. -/
theorem newObject_hypothesis (c : Candidate) (s : Interpreter) :
    Host.newObject OwnClass.hypothesis.found.1 OwnClass.hypothesis.found.2 c.args s =
      (.ok (.hypothesis (s.next + 3) c.widened), { s with next := s.next + 4 }) := rfl

theorem newObjects_hypothesis (cs : List Candidate) (s : Interpreter) :
    ∃ objects n, Host.newObjects OwnClass.hypothesis.found.1 OwnClass.hypothesis.found.2
      (cs.map Candidate.args) s = (.ok objects, { s with next := n }) ∧
        List.Forall₂ Datum.IsHypothesis objects cs := by
  induction cs generalizing s with
  | nil => exact ⟨[], s.next, rfl, .nil⟩
  | cons c cs ih =>
    obtain ⟨objects, n, hrest, hobjects⟩ := ih { s with next := s.next + 4 }
    refine ⟨.hypothesis (s.next + 3) c.widened :: objects, n, ?_, .cons ⟨_, rfl⟩ hobjects⟩
    rw [List.map_cons, Host.newObjects, newObject_hypothesis]
    simp only [hrest]
    rfl

/-- A list takes objects of its own class. -/
theorem newArray_of_class {path : ClassPath} {objects : List Datum}
    (h : ∀ d ∈ objects, d.classOf = path.cls) (s : Interpreter) :
    Host.newArray path objects s = (.ok (s.addList objects).1, (s.addList objects).2) := by
  have hcheck (index : Nat) : Interpreter.checkElements path index objects = .ok () := by
    induction objects generalizing index with
    | nil => rfl
    | cons d objects ih =>
      obtain ⟨hd, hr⟩ := List.forall_mem_cons.1 h
      simp only [Interpreter.checkElements, Interpreter.isInstance, hd, if_true, ih hr]
  simp only [Host.newArray, hcheck]

theorem mapM_map {α β : Type} {make : α → Datum} {read : Datum → Except Raised β} {f : α → β}
    (h : ∀ v, read (make v) = .ok (f v)) (values : List α) :
    (values.map make).mapM read = .ok (values.map f) := by
  induction values with
  | nil => rfl
  | cons v values ih =>
    rw [List.map_cons, List.mapM_cons, h, ih]
    rfl

/-- Data made of values one after the other are read as the values. -/
theorem mapM_zipIdx {α : Type} {make : α × Nat → Datum} {read : Datum → Except Raised α}
    (h : ∀ v i, read (make (v, i)) = .ok v) (values : List α) (first : Nat) :
    ((values.zipIdx first).map make).mapM read = .ok values := by
  rw [mapM_map (f := Prod.fst) fun p => h p.1 p.2, List.zipIdx_map_fst]

theorem readInt32_ofInt32 (stamp : Nat) (v : Int32) :
    Datum.readInt32 (.ofInt32 stamp v) = .ok v := by
  have hlow := v.le_toInt
  have hhigh := v.toInt_lt
  show (if v.toInt < -9223372036854775808 ∨ 9223372036854775808 ≤ v.toInt then
      throw (.overflow "Python int too large to convert to C long")
    else if v.toInt < -2147483648 then
      throw (.overflow "number too small to fit in target type")
    else if 2147483648 ≤ v.toInt then
      throw (.overflow "number too large to fit in target type")
    else return Int32.ofInt v.toInt : Except Raised Int32) = .ok v
  rw [if_neg (by omega), if_neg (by omega), if_neg (by omega), Int32.ofInt_toInt]
  rfl

theorem items_head (lists : Lists) (address : Nat) (items : List Datum) :
    Lists.items ((address, items) :: lists) address = items := by
  simp only [Lists.items, List.lookup_cons_self, Option.getD_some]

theorem items_of_ne {address other : Nat} (h : address ≠ other) (lists : Lists)
    (items : List Datum) : Lists.items ((other, items) :: lists) address = lists.items address := by
  simp only [Lists.items, List.lookup_cons, beq_false_of_ne h]

/-- A list of 32-bit integers is read as these. -/
theorem readInts_list {lists : Lists} {address first : Nat} {values : List Int32}
    (h : lists.items address = Datum.numbered Datum.ofInt32 first values) :
    Datum.readInts lists (.list address) = .ok values := by
  show List.mapM Datum.readInt32 (lists.items address) = _
  rw [h]
  exact mapM_zipIdx (fun v i => readInt32_ofInt32 _ v) values 0

theorem readInts_addInts (values : List Int32) (s : Interpreter) :
    Datum.readInts (s.addInts values).2.lists (s.addInts values).1 = .ok values :=
  readInts_list (items_head _ _ _)

/-- What the parts of a translation are read from, by the names of its parameters. -/
structure Matched.Holds {α : Type} (m : Matched) (lists : Lists)
    (readAlignment : Lists → Datum → Except Raised (List α)) (p : TranslationParts α) : Prop where
  text : ∃ stamp, m.lookup "text" = some (.text stamp p.text)
  hypotheses : ∃ d, m.lookup "hypotheses" = some d ∧ d.readItems lists = .ok p.hypotheses
  alignment : ∃ d, m.lookup "alignment" = some d ∧ readAlignment lists d = .ok p.alignment
  source : m.optional "source" Datum.readText? none = .ok p.source

theorem translationParts_eq {α : Type} {m : Matched} {lists : Lists}
    {readAlignment : Lists → Datum → Except Raised (List α)} {p : TranslationParts α}
    (h : m.Holds lists readAlignment p) : m.translationParts lists readAlignment = .ok p := by
  obtain ⟨⟨stamp, htext⟩, ⟨nbest, hnbest, hitems⟩, ⟨alignment, halignment, hread⟩, hsource⟩ := h
  unfold Matched.translationParts Matched.required
  simp only [htext, hnbest, halignment, hsource, Option.getD_some, hitems, hread]
  rfl

theorem makeOwn_translation {args : List Datum} {s : Interpreter} {m : Matched}
    {p : TranslationParts Int32} (hbind : OwnClass.translation.callable.bind args [] = .ok m)
    (hparts : m.translationParts s.lists Datum.readInts = .ok p) :
    Action.makeOwn .translation args [] s =
      (.ok (.translation s.next p.text p.hypotheses p.alignment p.source),
        { s with next := s.next + 1 }) := by
  unfold Action.makeOwn
  rw [hbind]
  show (do
    let p ← m.translationParts s.lists Datum.readInts
    Action.fresh (.translation · p.text p.hypotheses p.alignment p.source) : Action Datum) s = _
  rw [hparts]
  rfl

/-- The class of translations takes data that are read as a list and as integers. -/
theorem newObject_translation {s : Interpreter} {nbest alignment : Datum} {objects : List Datum}
    {flat : List Int32} (text : String) (source : Option String)
    (hnbest : nbest.readItems s.lists = .ok objects)
    (halignment : alignment.readInts s.lists = .ok flat) :
    ∃ stamp n, Host.newObject OwnClass.translation.found.1 OwnClass.translation.found.2
      (TranslationBuilder.args text nbest alignment source) s =
        (.ok (.translation stamp text objects flat source), { s with next := n }) := by
  have hmake {args : List (Arg Datum)} {m : Matched}
      (hbind : OwnClass.translation.callable.bind
        (Datum.numbered Interpreter.argument s.next args) [] = .ok m)
      (hparts : m.Holds s.lists Datum.readInts ⟨text, objects, flat, source⟩) :
      Host.newObject OwnClass.translation.found.1 OwnClass.translation.found.2 args s =
        (.ok (.translation (s.next + args.length) text objects flat source),
          { s with next := s.next + args.length + 1 }) := by
    have hbuild : Interpreter.build (.own .translation) args s = _ :=
      makeOwn_translation (s := { s with next := s.next + args.length }) hbind
        (translationParts_eq hparts)
    simp only [Host.newObject, OwnClass.found, hbuild]
  cases source with
  | none =>
    exact ⟨_, _, hmake rfl
      ⟨⟨_, rfl⟩, ⟨_, rfl, hnbest⟩, ⟨_, rfl, halignment⟩, rfl⟩⟩
  | some source =>
    exact ⟨_, _, hmake rfl
      ⟨⟨_, rfl⟩, ⟨_, rfl, hnbest⟩, ⟨_, rfl, halignment⟩, rfl⟩⟩

end Scripting

/-! ### Exporters -/

/-- A handle on a class of the exporter module, which is all that it can have found. -/
structure Handle.LeadsTo (h : Handle ClassPath ScriptClass) (c : OwnClass) : Prop where
  className : h.className = (ScriptClass.own c).fullName
  accepted : (ScriptClass.own c).objection? h.signature.arity = none
  found : ∀ p ∈ h.resolved, p = c.found

/-- A handle that has found a class of the exporter module. -/
def Handle.settledOn (h : Handle ClassPath ScriptClass) (c : OwnClass) :
    Handle ClassPath ScriptClass :=
  { h with resolved := some c.found }

namespace Handle.LeadsTo

variable {h : Handle ClassPath ScriptClass} {c : OwnClass}

theorem settledOn (hl : h.LeadsTo c) : (h.settledOn c).LeadsTo c :=
  ⟨hl.className, hl.accepted, fun _ hp => (Option.some.inj hp).symm⟩

theorem resolve (hl : h.LeadsTo c) (s : Interpreter) :
    h.resolve s = (.ok c.found, h.settledOn c, s) := by
  unfold Handle.resolve
  cases hr : h.resolved with
  | some found =>
    obtain rfl := hl.found found hr
    simp only [Handle.settledOn, ← hr]
  | none =>
    simp only [hl.className, findClass_own, findConstructor_own hl.accepted, Handle.settledOn]

theorem create (hl : h.LeadsTo c) (args : List (Arg Datum)) (s : Interpreter) :
    h.create args s = ((Host.newObject c.found.1 c.found.2 args s).1, h.settledOn c,
      (Host.newObject c.found.1 c.found.2 args s).2) := by
  simp only [Handle.create, hl.resolve]

theorem createArray (hl : h.LeadsTo c) (elements : List Datum) (s : Interpreter) :
    h.createArray elements s = ((Host.newArray c.found.1 elements s).1, h.settledOn c,
      (Host.newArray c.found.1 elements s).2) := by
  simp only [Handle.createArray, hl.resolve]

end Handle.LeadsTo

/-- An exporter for the classes of the exporter module. -/
structure Exporter.BuildsOwn (includeSource : Bool) (e : Exporter ClassPath ScriptClass) :
    Prop where
  hypotheses : e.hypotheses.handle.LeadsTo .hypothesis
  translations : ∀ source, (e.translations.selected source).LeadsTo .translation
  flag : e.includeSource = includeSource

namespace Exporter

variable {e : Exporter ClassPath ScriptClass} {includeSource : Bool}

theorem buildsOwn_ofConfig (includeSource : Bool) :
    BuildsOwn includeSource (.ofConfig { plainConfig with includeSource }) where
  hypotheses := ⟨rfl, rfl, nofun⟩
  translations := by
    intro source
    cases source
    · exact ⟨rfl, rfl, nofun⟩
    · exact ⟨rfl, rfl, nofun⟩
  flag := rfl

namespace BuildsOwn

theorem putTranslation (he : e.BuildsOwn includeSource) {h : Handle ClassPath ScriptClass}
    (hl : h.LeadsTo .translation) (source other : Option String) :
    ((e.translations.put source h).selected other).LeadsTo .translation := by
  have hnarrow := he.translations none
  have hextended := he.translations (some "")
  cases source <;> cases other
  · exact hl
  · exact hextended
  · exact hnarrow
  · exact hl

/-- Building a translation does not make the exporter hold another class, whatever it is built
from. -/
theorem finish (he : e.BuildsOwn includeSource) (text : String) (objects : List Datum)
    (alignment : Alignment) (source : Option String) (s : Interpreter) :
    (e.finish text objects alignment source s).2.1.BuildsOwn includeSource := by
  have hsettled := he.hypotheses.settledOn
  simp only [Exporter.finish, HypothesisBuilder.newArray, he.hypotheses.createArray]
  rcases Host.newArray OwnClass.hypothesis.found.1 objects s with ⟨f | nbest, s'⟩
  · exact ⟨hsettled, he.translations, he.flag⟩
  · dsimp only
    rcases Host.newInts alignment.flat s' with ⟨f | ints, s''⟩
    · exact ⟨hsettled, he.translations, he.flag⟩
    · simp only [TranslationBuilder.build_eq, (he.translations source).create]
      exact ⟨hsettled, he.putTranslation (he.translations source).settledOn source, he.flag⟩

/-- A translation is built around any hypotheses that have been built. -/
theorem fst_finish (he : e.BuildsOwn includeSource) (text : String) {objects : List Datum}
    (hobjects : ∀ d ∈ objects, d.classOf = .own .hypothesis) (alignment : Alignment)
    (source : Option String) (s : Interpreter) :
    ∃ stamp, (e.finish text objects alignment source s).1 =
      .ok (.translation stamp text objects alignment.flat source) := by
  have harray : Host.newArray OwnClass.hypothesis.found.1 objects s = _ :=
    newArray_of_class hobjects s
  -- The two lists of the arguments stand at different addresses.
  obtain ⟨nbest, s', hnbest, hitems⟩ : ∃ d s', s.addList objects = (d, s') ∧
      ∀ values, d.readItems (s'.addInts values).2.lists = .ok objects := by
    refine ⟨_, _, rfl, ?_⟩
    intro values
    have hne : s.next ≠ s.next + 1 + values.length := by omega
    show Except.ok (Lists.items ((_, _) :: (s.next, objects) :: s.lists) s.next) = _
    rw [items_of_ne hne, items_head]
  have hints : Host.newInts alignment.flat s' =
      (.ok (s'.addInts alignment.flat).1, (s'.addInts alignment.flat).2) := rfl
  obtain ⟨stamp, n, hnew⟩ := newObject_translation text source (hitems alignment.flat)
    (readInts_addInts alignment.flat s')
  refine ⟨stamp, ?_⟩
  simp only [Exporter.finish, HypothesisBuilder.newArray, he.hypotheses.createArray, harray, hnbest,
    hints, TranslationBuilder.build_eq, (he.translations source).create, hnew]

/-- An exporter that has found the class of hypotheses. -/
theorem settledHypotheses (he : e.BuildsOwn includeSource) :
    BuildsOwn includeSource
      { e with hypotheses := ⟨e.hypotheses.handle.settledOn .hypothesis⟩ } :=
  ⟨he.hypotheses.settledOn, he.translations, he.flag⟩

theorem marshal_eq (he : e.BuildsOwn includeSource) {o : DecoderOutput} {alignment : Alignment}
    (ha : Alignment.encode (ρ := Raised) o.alignment = .ok alignment) (s : Interpreter) :
    ∃ objects n, List.Forall₂ Datum.IsHypothesis objects o.nbest ∧ e.marshal o s =
      Exporter.finish { e with hypotheses := ⟨e.hypotheses.handle.settledOn .hypothesis⟩ }
        o.text objects alignment (e.sourceOf o) { s with next := n } := by
  obtain ⟨objects, n, hnew, hobjects⟩ := newObjects_hypothesis o.nbest s
  refine ⟨objects, n, hobjects, ?_⟩
  rw [marshal_staged, ha, he.hypotheses.resolve]
  simp only [hnew]

theorem marshal (he : e.BuildsOwn includeSource) (o : DecoderOutput) (s : Interpreter) :
    (e.marshal o s).2.1.BuildsOwn includeSource := by
  cases ha : (Alignment.encode o.alignment : Except (Fault Raised) Alignment) with
  | error f =>
    simp only [Exporter.marshal, ha]
    exact he
  | ok alignment =>
    obtain ⟨objects, n, -, h⟩ := he.marshal_eq ha s
    rw [h]
    exact he.settledHypotheses.finish _ _ _ _ _

/-- Every output whose alignment can be encoded is exported. -/
theorem fst_marshal (he : e.BuildsOwn includeSource) {o : DecoderOutput} {alignment : Alignment}
    (ha : Alignment.encode (ρ := Raised) o.alignment = .ok alignment) (s : Interpreter) :
    ∃ stamp objects, List.Forall₂ Datum.IsHypothesis objects o.nbest ∧ (e.marshal o s).1 =
      .ok (.translation stamp o.text objects alignment.flat
        (if includeSource then o.source else none)) := by
  obtain ⟨objects, n, hobjects, h⟩ := he.marshal_eq ha s
  obtain ⟨stamp, hfinish⟩ := he.settledHypotheses.fst_finish o.text
    (classOf_of_isHypothesis hobjects) alignment (e.sourceOf o) { s with next := n }
  refine ⟨stamp, objects, hobjects, ?_⟩
  rw [h, hfinish, sourceOf, he.flag]

end BuildsOwn

end Exporter

namespace Scripting

/-- An interpreter with an exporter at an address that was made for a configuration. Since then
scripts may have used the exporter in every way that there is, and in between the interpreter may
have come to any state that has the exporter as it was. The names of the exporter module are no part
of the state: they stand for what they stood for. -/
inductive Interpreter.Keeps (config : Config) (address : Nat) : Interpreter → Prop
  | made {s : Interpreter} (h : s.exporter address = .ofConfig config) : Keeps config address s
  | resolve {s : Interpreter} (h : Keeps config address s) :
      Keeps config address (Action.resolve address s).2
  | hypothesis {s : Interpreter} (h : Keeps config address s) (c : Candidate) :
      Keeps config address (Action.buildHypothesis address c s).2
  | translation {s : Interpreter} (h : Keeps config address s)
      (p : TranslationParts AlignmentPair) :
      Keeps config address (Action.buildTranslation address p s).2
  | output {s : Interpreter} (h : Keeps config address s) (o : DecoderOutput) :
      Keeps config address (Action.exportOutput address o s).2
  | other {s t : Interpreter} (h : Keeps config address s)
      (hs : t.exporter address = s.exporter address) : Keeps config address t

theorem exporter_runExporter {α : Type} (address : Nat)
    (run : Exporter ClassPath ScriptClass → Interpreter →
      Except (Fault Raised) α × Exporter ClassPath ScriptClass × Interpreter) (s : Interpreter) :
    (Action.runExporter address run s).2.exporter address = (run (s.exporter address) s).2.1 := by
  show Option.getD (List.lookup address ((address, _) :: _)) _ = _
  rw [List.lookup_cons_self]
  rfl

/-- The alignment is encoded before the exporter is asked for anything. -/
theorem buildTranslation_eq (address : Nat) (p : TranslationParts AlignmentPair)
    (s : Interpreter) :
    Action.buildTranslation address p s =
      match (Alignment.encode p.alignment : Except (Fault Raised) Alignment) with
      | .error f => (.error (.ofFault f), s)
      | .ok alignment => Action.runExporter address
          (fun e s => e.finish p.text p.hypotheses alignment p.source s) s := by
  unfold Action.buildTranslation
  cases (Alignment.encode p.alignment : Except (Fault Raised) Alignment) <;> rfl

/-- Whatever scripts do with an exporter for the classes of its own module, it stays one. -/
theorem Interpreter.Keeps.buildsOwn {includeSource : Bool} {address : Nat} {s : Interpreter}
    (h : s.Keeps { plainConfig with includeSource } address) :
    (s.exporter address).BuildsOwn includeSource := by
  induction h with
  | made h =>
    rw [h]
    exact Exporter.buildsOwn_ofConfig includeSource
  | @resolve s h ih =>
    have hnarrow : (s.exporter address).translations.narrow.LeadsTo .translation :=
      ih.translations none
    rw [Action.resolve, exporter_runExporter]
    simp only [HypothesisBuilder.resolve, ih.hypotheses.resolve, Except.map,
      TranslationBuilder.resolve, hnarrow.resolve]
    exact ⟨ih.hypotheses.settledOn, ih.putTranslation hnarrow.settledOn none, ih.flag⟩
  | hypothesis h c ih =>
    rw [Action.buildHypothesis, exporter_runExporter]
    simp only [HypothesisBuilder.create, ih.hypotheses.create]
    exact ih.settledHypotheses
  | translation h p ih =>
    rw [buildTranslation_eq]
    split
    · exact ih
    · rw [exporter_runExporter]
      exact ih.finish _ _ _ _ _
  | output h o ih =>
    rw [Action.exportOutput, exporter_runExporter]
    exact ih.marshal o _
  | other h hs ih =>
    rw [hs]
    exact ih

end Scripting

end DecoderExport
