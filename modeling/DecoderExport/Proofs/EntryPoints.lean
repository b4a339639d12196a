import DecoderExport.Proofs.IndexRange
import DecoderExport.Proofs.StepwiseExport

/-!
# Every way to flatten pairs

Pairs are flattened on their own, across the boundary and in scripts, and with an output that is
exported to an object model or to scripts, at once or around hypotheses that have been built. All of
these ways take the same pairs. Either they deliver the same flat array, which scripts can pair up
again, or they refuse the same index in the same words and have made nothing.
-/

namespace DecoderExport

open DecoderExport.Scripting

/-- The indices of a pair, one after the other. -/
def AlignmentPair.indices (p : AlignmentPair) : List UInt64 := [p.source, p.target]

/-- The complaint about an index that does not fit. -/
def misfitText (position : Nat) (side : Side) (index : Nat) : String :=
  s!"Narrowing error: {side.text} index {index} of alignment pair {position} exceeds {maxIndex}"

/-! ### Across the boundary -/

namespace Boundary

/-- What a caller hands over for pairs: their indices, maybe with others behind them, and nothing at
all if there are no pairs. Memory does not hold more of them than can be addressed. -/
structure HandedOver (indices : Option (List UInt64)) (pairs : List AlignmentPair) : Prop where
  addressable : 2 * pairs.length < Library.addressable
  spells : (∃ rest, indices = some (pairs.flatMap AlignmentPair.indices ++ rest)) ∨
    pairs = [] ∧ indices = none

/-- What a place for an array holds after an answer, which may leave it alone. -/
def Answer.place (held : IntArray) : Answer → IntArray
  | .array _ (some written) => written
  | _ => held

namespace IntArray

/-- A caller finds certain numbers: their count, and they themselves behind a pointer that is not
null, be it that there are none. -/
structure Holds (array : IntArray) (values : List Int32) : Prop where
  data : array.data ≠ .null
  len : array.len = values.length
  values : array.values? = some values

theorem holds_allocate (values : List Int32) : (allocate values).Holds values := by
  cases values with
  | nil => exact ⟨nofun, rfl, rfl⟩
  | cons first behind =>
    refine ⟨nofun, rfl, ?_⟩
    simp only [values?, allocate, IntPointer.ofBlock, IntPointer.readable, Nat.le_refl, if_true,
      List.take_length]

end IntArray

namespace Library

theorem take_pairUp (pairs : List AlignmentPair) (rest : List UInt64) :
    (pairUp (pairs.flatMap AlignmentPair.indices ++ rest)).take pairs.length = pairs := by
  induction pairs with
  | nil => rfl
  | cons p pairs ih => exact congrArg (p :: ·) ih

/-- A caller announces the pairs that it hands over. -/
theorem announcedPairs_of_handedOver {indices : Option (List UInt64)} {pairs : List AlignmentPair}
    (h : HandedOver indices pairs) : announcedPairs indices pairs.length = .ok pairs := by
  rw [announcedPairs_ok_iff]
  by_cases hempty : pairs = []
  · exact .inl ⟨by rw [hempty, List.length_nil], hempty⟩
  · obtain ⟨rest, rfl⟩ | ⟨hnil, -⟩ := h.spells
    · have hlength : pairs.length ≠ 0 := by simpa using hempty
      exact .inr ⟨hlength, _, rfl, h.addressable, (take_pairUp pairs rest).symm⟩
    · exact absurd hnil hempty

/-- Handed over, pairs are flattened as on their own, and the last error tells how that went. -/
theorem step_encodeAlignment (lib : Library) (env : Environment) {indices : Option (List UInt64)}
    {pairs : List AlignmentPair} (h : HandedOver indices pairs) :
    lib.step env (.encodeAlignment indices pairs.length true) =
      match (Alignment.encode pairs : Except (Fault Empty) Alignment) with
      | .ok alignment =>
        (.array .success (some (.allocate alignment.flat)), { lib with lastError := none })
      | .error f =>
        (.array (.ofFault f) none, { lib with lastError := some (reportable f.message) }) := by
  simp only [step, encodeAnnounced_eq, announcedPairs_of_handedOver h, Except.bind]
  cases (Alignment.encode pairs : Except (Fault Empty) Alignment) <;> rfl

end Library

end Boundary

/-! ### In scripts -/

namespace Scripting

/-- Arguments of a call that spell pairs to be flattened. -/
def SpellsPairs (args : List Datum) (named : Names) (lists : Lists)
    (pairs : List AlignmentPair) : Prop :=
  ∃ m, encodeCallable.bind args named = .ok m ∧
    m.required "pairs" (Datum.readPairs lists) = .ok pairs

/-- Arguments of a call that spell a flat array to be paired up. -/
def SpellsFlat (args : List Datum) (named : Names) (lists : Lists) (flat : List Int32) : Prop :=
  ∃ m, decodeCallable.bind args named = .ok m ∧
    m.required "flat" (Datum.readInts lists) = .ok flat

/-- The same lists, objects and names as before, and exporters as they were. -/
structure Interpreter.MadeNothing (s t : Interpreter) : Prop where
  lists : t.lists = s.lists
  objects : t.objects = s.objects
  names : t.names = s.names
  exporters : ∀ address, t.exporter address = s.exporter address

theorem spellsFlat_of_isInts {flat : List Int32} {lists : Lists} {d : Datum}
    (h : IsInts flat lists d) : SpellsFlat [d] [] lists flat := by
  obtain ⟨first, address, rfl, hitems⟩ := h
  refine ⟨_, rfl, ?_⟩
  show blame "flat" (Datum.readInts lists (.list address)) = _
  rw [readInts_list hitems]
  rfl

theorem isInts_addInts (flat : List Int32) (s : Interpreter) :
    IsInts flat (s.addInts flat).2.lists (s.addInts flat).1 :=
  ⟨s.next, s.next + flat.length, rfl, items_head _ _ _⟩

namespace Action

/-- What the exporter module binds a name without dots to is called. -/
theorem callOffered_eq {name : String} {d : Datum} {s : Interpreter}
    (hname : nameParts name = [name]) (hlook : lookName .exporter name s = (.ok d, s))
    (env : Environment) (args : List Datum) (named : Names) :
    callOffered env name args named s = call env d args named s := by
  have hfold : (nameParts name).foldlM getAttribute (.module .exporter) s = (.ok d, s) := by
    have hget : getAttribute (.module .exporter) name s = (.ok d, s) := hlook
    rw [hname, List.foldlM_cons, bind_ok (congrArg Prod.fst hget), hget]
    rfl
  rw [callOffered, bind_ok (congrArg Prod.fst hfold), hfold]

variable (env : Environment) {args : List Datum} {named : Names} {s : Interpreter}

theorem callOffered_encode {pairs : List AlignmentPair}
    (h : SpellsPairs args named s.lists pairs) :
    callOffered env "encode_alignment" args named s =
      match (Alignment.encode pairs : Except (Fault Raised) Alignment) with
      | .error f => (.error (.ofFault f), s)
      | .ok alignment => (.ok (s.addInts alignment.flat).1, (s.addInts alignment.flat).2) := by
  obtain ⟨m, hbind, hread⟩ := h
  have hlook : lookName .exporter "encode_alignment" s =
      (.ok (.routine ⟨none, "encode_alignment", .static⟩), s) := rfl
  rw [callOffered_eq (by decide) hlook]
  show (do
    let m ← encodeCallable.bind args named
    let pairs ← m.required "pairs" (Datum.readPairs (← get).lists)
    ints (← ofFault (Alignment.encode pairs)).flat : Action Datum) s = _
  rw [hbind]
  show (do
    let pairs ← m.required "pairs" (Datum.readPairs s.lists)
    ints (← ofFault (Alignment.encode pairs)).flat : Action Datum) s = _
  rw [hread]
  show (do ints (← ofFault (Alignment.encode pairs)).flat : Action Datum) s = _
  cases (Alignment.encode pairs : Except (Fault Raised) Alignment) <;> rfl

theorem callOffered_decode {alignment : Alignment}
    (h : SpellsFlat args named s.lists alignment.flat) :
    ∃ d t, callOffered env "decode_alignment" args named s = (.ok d, t) ∧
      IsPairs alignment.decode t.lists d := by
  obtain ⟨m, hbind, hread⟩ := h
  have hlook : lookName .exporter "decode_alignment" s =
      (.ok (.routine ⟨none, "decode_alignment", .static⟩), s) := rfl
  rw [callOffered_eq (by decide) hlook]
  show ∃ d t, (do
    let m ← decodeCallable.bind args named
    pairUp (← m.required "flat" (Datum.readInts (← get).lists)) : Action Datum) s = _ ∧ _
  rw [hbind]
  show ∃ d t, (do
    pairUp (← m.required "flat" (Datum.readInts s.lists)) : Action Datum) s = _ ∧ _
  rw [hread]
  show ∃ d t, (do pairs (← ofFault (Alignment.ofFlat alignment.flat)).decode) s = _ ∧ _
  rw [Alignment.ofFlat_flat]
  exact ⟨_, _, rfl, s.next, _, rfl, items_head _ _ _⟩

end Action

theorem lookup_filter_ne {α : Type} {a b : Nat} (h : b ≠ a) (entries : List (Nat × α)) :
    (entries.filter (·.1 ≠ a)).lookup b = entries.lookup b := by
  induction entries with
  | nil => rfl
  | cons entry entries ih =>
    obtain ⟨k, w⟩ := entry
    by_cases hk : k = a
    · have hne : b ≠ k := by rwa [hk]
      rw [List.filter_cons_of_neg (by simpa using hk), ih, List.lookup_cons, beq_false_of_ne hne]
    · rw [List.filter_cons_of_pos (by simpa using hk), List.lookup_cons, List.lookup_cons, ih]

/-- An export that is refused leaves everything as it was, the exporter included. -/
theorem madeNothing_exportOutput {o : DecoderOutput} {f : Fault Raised}
    (h : Alignment.encode o.alignment = .error f) (address : Nat) (s : Interpreter) :
    s.MadeNothing (Action.exportOutput address o s).2 := by
  have hmarshal : (s.exporter address).marshal o s = (.error f, s.exporter address, s) := by
    simp only [Exporter.marshal, h]
  simp only [Action.exportOutput, Action.runExporter, hmarshal]
  refine ⟨rfl, rfl, rfl, fun other => ?_⟩
  by_cases hother : other = address
  · simp only [Interpreter.exporter, hother, List.lookup_cons_self, Option.getD_some]
  · simp only [Interpreter.exporter, List.lookup_cons, beq_false_of_ne hother,
      lookup_filter_ne hother]

end Scripting

/-! ### All of them -/

/-- Where pairs are flattened: an exporter with the object models that it serves, a library, and an
interpreter with an exporter at an address. -/
structure Sites where
  session : Session
  /-- The object model that is exported to. -/
  model : Nat
  library : Boundary.Library
  env : Environment
  interpreter : Interpreter
  address : Nat

namespace Sites

/-- Both exporters export to the default classes, in whatever way they have been used before. -/
structure Plain (x : Sites) : Prop where
  session : ∃ includeSource minted, ∃ history : List (Nat × DecoderOutput),
    x.session = (Session.start { includeSource } (fun _ => .withDefaultClasses) minted).run
      (history.map fun (model, o) => .marshal model o)
  interpreter : ∃ includeSource,
    x.interpreter.Keeps { plainConfig with includeSource } x.address

/-- All ways to flatten pairs can be given certain ones, also with an output or with the parts of a
translation. -/
structure Takes (x : Sites) (pairs : List AlignmentPair) : Prop where
  boundary : 2 * pairs.length < Boundary.Library.addressable →
    Boundary.HandedOver (some (pairs.flatMap AlignmentPair.indices)) pairs
  absent : pairs = [] → Boundary.HandedOver none pairs
  function : ∃ args, SpellsPairs args [] x.interpreter.lists pairs
  output : ∀ o, o.alignment = pairs → ∃ args, Spells args [] x.interpreter.lists o
  parts : ∀ p, p.alignment = pairs → ∃ args, SpellsParts args [] x.interpreter.lists p

/-- What all ways to flatten pairs deliver. -/
structure Delivers (x : Sites) (pairs : List AlignmentPair) (flat : List Int32) : Prop where
  length : flat.length = 2 * pairs.length
  encode : ∃ alignment, Alignment.encode (ρ := Empty) pairs = .ok alignment ∧
    alignment.flat = flat
  /-- The pointer is not null even if there are no pairs. -/
  boundary : ∀ indices, Boundary.HandedOver indices pairs → ∃ answer array,
    x.library.step x.env (.encodeAlignment indices pairs.length true) =
      (answer, { x.library with lastError := none }) ∧
    answer = .array .success (some array) ∧ (∀ held, answer.place held = array) ∧
    array.data ≠ .null ∧ array.len = 2 * pairs.length ∧ array.values? = some flat
  session : ∀ o, o.alignment = pairs → ∃ v stamp,
    (x.session.call x.model o).1 = .ok v ∧ v.class? = some defaultTranslationClass ∧
      v.field? "alignment" = some (.ints stamp flat)
  function : ∀ args named, SpellsPairs args named x.interpreter.lists pairs → ∃ d s,
    Action.callOffered x.env "encode_alignment" args named x.interpreter = (.ok d, s) ∧
      IsInts flat s.lists d ∧ SpellsFlat [d] [] s.lists flat
  output : ∀ o args named, o.alignment = pairs → Spells args named x.interpreter.lists o → ∃ d,
    (Action.callMethod x.env (.exporter x.address) "marshal" args named x.interpreter).1 = .ok d ∧
      d.classOf = .own .translation ∧ d.Shows "alignment" (IsInts flat)
  parts : ∀ p args named, p.alignment = pairs →
    (∀ d ∈ p.hypotheses, d.classOf = .own .hypothesis) →
    SpellsParts args named x.interpreter.lists p → ∃ d,
    (Action.callMethod x.env (.exporter x.address) "translation" args named x.interpreter).1 =
      .ok d ∧ d.classOf = .own .translation ∧ d.Shows "alignment" (IsInts flat)
  /-- Scripts pair the array up again, whatever they have done before. -/
  back : ∀ (s : Interpreter) args named, SpellsFlat args named s.lists flat → ∃ d t,
    Action.callOffered x.env "decode_alignment" args named s = (.ok d, t) ∧
      IsPairs pairs t.lists d

/-- What all ways to flatten pairs do about an index that does not fit. -/
structure Refuses (x : Sites) (pairs : List AlignmentPair) (position : Nat) (side : Side)
    (index : Nat) : Prop where
  encode : Alignment.encode (ρ := Empty) pairs = .error (.narrowing position side index maxIndex)
  boundary : ∀ indices, Boundary.HandedOver indices pairs → ∃ answer,
    x.library.step x.env (.encodeAlignment indices pairs.length true) =
      (answer, { x.library with lastError := some (misfitText position side index) }) ∧
    answer = .array .narrowingError none ∧ ∀ held, answer.place held = held
  session : ∀ o, o.alignment = pairs → x.session.call x.model o =
    (.error (.narrowing position side index maxIndex), x.session.exporter,
      ⟨x.session.models x.model, x.session.minted⟩)
  function : ∀ args named, SpellsPairs args named x.interpreter.lists pairs →
    Action.callOffered x.env "encode_alignment" args named x.interpreter =
      (.error ⟨.fault .narrowing, misfitText position side index⟩, x.interpreter)
  output : ∀ o args named, o.alignment = pairs → Spells args named x.interpreter.lists o → ∃ s,
    Action.callMethod x.env (.exporter x.address) "marshal" args named x.interpreter =
      (.error ⟨.fault .narrowing, misfitText position side index⟩, s) ∧
      x.interpreter.MadeNothing s
  parts : ∀ p args named, p.alignment = pairs → SpellsParts args named x.interpreter.lists p → ∃ s,
    Action.callMethod x.env (.exporter x.address) "translation" args named x.interpreter =
      (.error ⟨.fault .narrowing, misfitText position side index⟩, s) ∧
      x.interpreter.MadeNothing s

variable {x : Sites} {pairs : List AlignmentPair}

theorem delivers_of_fits (hx : x.Plain) (h : ∀ p ∈ pairs, p.Fits) :
    x.Delivers pairs (pairs.flatMap AlignmentPair.entries) := by
  obtain ⟨withSource, minted, history, hsession⟩ := hx.session
  obtain ⟨includeSource, hkeeps⟩ := hx.interpreter
  have huniform :
      Session.Uniform { includeSource := withSource } .withDefaultClasses x.session := by
    rw [hsession]
    exact (Session.uniform_start _ _ minted).run_marshals history
  have hnext : Interpreter.Keeps { plainConfig with includeSource } x.address
      { x.interpreter with next := x.interpreter.next + 1 } := .other hkeeps rfl
  obtain ⟨encoded, hencode, hflat⟩ := Alignment.encode_ok (ρ := Empty) h
  obtain ⟨alignment, hscript, hsame⟩ := Alignment.encode_ok (ρ := Raised) h
  rw [← hsame]
  refine ⟨?_, ⟨encoded, hencode, by rw [hflat, hsame]⟩, ?_, ?_, ?_, ?_, ?_, ?_⟩
  · rw [hsame, Alignment.length_entries]
  · intro indices hindices
    obtain ⟨hdata, hlen, hvalues⟩ := Boundary.IntArray.holds_allocate alignment.flat
    refine ⟨_, .allocate alignment.flat, ?_, rfl, fun held => rfl, hdata, ?_, hvalues⟩
    · rw [x.library.step_encodeAlignment x.env hindices, hencode, hsame, ← hflat]
    · rw [hlen, hsame, Alignment.length_entries]
  · rintro o rfl
    have hcall := huniform.fst_call x.model o
    rw [Exporter.outcome_default huniform.serves rfl rfl h, ← hsame] at hcall
    exact ⟨_, _, hcall, rfl, rfl⟩
  · intro args named hspells
    have hints := isInts_addInts alignment.flat x.interpreter
    refine ⟨_, _, ?_, hints, spellsFlat_of_isInts hints⟩
    rw [Action.callOffered_encode x.env hspells, hscript]
  · rintro o args named rfl ⟨m, p, hbind, hread, hop⟩
    rw [callMethod_marshal x.env x.address hbind hread]
    rw [hop.alignment] at hscript
    obtain ⟨stamp, objects, -, hfst⟩ := fst_exportOutput_ok hnext hscript
    exact ⟨_, hfst, rfl, translation_shows_alignment _ _ _ _ _⟩
  · rintro p args named rfl hclasses hspells
    obtain ⟨stamp, hfst⟩ := translation_ok hkeeps x.env hspells hclasses hscript
    exact ⟨_, hfst, rfl, translation_shows_alignment _ _ _ _ _⟩
  · intro s args named hspells
    have hdecode : alignment.decode = pairs := by
      rw [Alignment.decode, hsame, Alignment.pairsOf_entries h]
    rw [← hdecode]
    exact Action.callOffered_decode x.env hspells

theorem refuses_of_encode_error {position index : Nat} {side : Side}
    (h : Alignment.encode (ρ := Empty) pairs = .error (.narrowing position side index maxIndex)) :
    x.Refuses pairs position side index := by
  have hscript : Alignment.encode (ρ := Raised) pairs =
      .error (.narrowing position side index maxIndex) := by
    obtain ⟨k, other, n, heq, hscript⟩ := Alignment.encode_error_any h Raised
    cases heq
    exact hscript
  refine ⟨h, ?_, ?_, ?_, ?_, ?_⟩
  · intro indices hindices
    refine ⟨_, ?_, rfl, fun held => rfl⟩
    have hreport : Boundary.reportable _ = misfitText position side index :=
      Boundary.reportable_narrowing position side index
    rw [x.library.step_encodeAlignment x.env hindices, h, ← hreport]
    rfl
  · rintro o rfl
    simp only [Session.call, Exporter.marshal, h]
  · intro args named hspells
    rw [Action.callOffered_encode x.env hspells, hscript]
    rfl
  · rintro o args named rfl ⟨m, p, hbind, hread, hop⟩
    rw [hop.alignment] at hscript
    have hnothing := madeNothing_exportOutput hscript x.address
      { x.interpreter with next := x.interpreter.next + 1 }
    rw [callMethod_marshal x.env x.address hbind hread]
    exact ⟨_, Prod.ext (fst_exportOutput_error hscript _ _) rfl, hnothing.lists,
      hnothing.objects, hnothing.names, hnothing.exporters⟩
  · rintro p args named rfl hspells
    rw [callMethod_translation x.env x.address hspells, buildTranslation_eq, hscript]
    exact ⟨_, rfl, rfl, rfl, rfl, fun _ => rfl⟩

theorem takes (x : Sites) (pairs : List AlignmentPair) : x.Takes pairs := by
  have hpairs (pairs : List AlignmentPair) : Datum.readPairs x.interpreter.lists
      (.tuple 0 (pairs.map (.ofPair 0))) = .ok pairs := by
    have hread := mapM_map (readPair_ofPair 0) pairs (f := id)
    rwa [List.map_id] at hread
  refine ⟨?_, ?_, ⟨[.tuple 0 (pairs.map (.ofPair 0))], _, rfl, ?_⟩, ?_, ?_⟩
  · intro h
    exact ⟨h, .inl ⟨[], by rw [List.append_nil]⟩⟩
  · rintro rfl
    exact ⟨by decide, .inr ⟨rfl, rfl⟩⟩
  · show blame "pairs" (Datum.readPairs _ (.tuple 0 (pairs.map (.ofPair 0)))) = _
    rw [hpairs]
    rfl
  · intro o _
    exact ⟨argumentsOf o, spells_argumentsOf o _⟩
  · intro p _
    have hsource : Datum.readText? (.ofText? 0 p.source) = .ok p.source := by
      cases p.source <;> rfl
    exact ⟨[.constant p.text, .tuple 0 p.hypotheses, .tuple 0 (p.alignment.map (.ofPair 0)),
      .ofText? 0 p.source], spellsParts_of_read rfl rfl (hpairs p.alignment) hsource⟩

/-- Whatever pairs they are given, all ways to flatten them deliver the same flat array, or all of
them refuse the first index in reading order that does not fit. -/
theorem flatten_alike (hx : x.Plain) (pairs : List AlignmentPair) :
    x.Takes pairs ∧
    ((∀ p ∈ pairs, p.Fits) ∧ x.Delivers pairs (pairs.flatMap AlignmentPair.entries) ∨
      ∃ position p side, pairs[position]? = some p ∧ maxIndex < (p.index side).toNat ∧
        (side = .target → p.source.toNat ≤ maxIndex) ∧
        (∀ j < position, ∀ q, pairs[j]? = some q → q.Fits) ∧
        x.Refuses pairs position side (p.index side).toNat) := by
  refine ⟨x.takes pairs, ?_⟩
  by_cases hfits : ∀ p ∈ pairs, p.Fits
  · exact .inl ⟨hfits, delivers_of_fits hx hfits⟩
  · obtain ⟨f, hf⟩ := Alignment.encode_error_of_not_fits (ρ := Empty) hfits
    obtain ⟨position, p, side, hp, rfl, hlarge, hside, hfirst⟩ := Alignment.encode_error hf
    exact .inr ⟨position, p, side, hp, hlarge, hside, hfirst, refuses_of_encode_error hf⟩

/-- Exporters and a library that have not been used. -/
def unused : Sites where
  session := .start {} (fun _ => .withDefaultClasses) 0
  model := 0
  library := .fresh
  env := []
  interpreter := ((Interpreter.fresh [] []).addExporter plainConfig).2
  address := 1

/-- Pairs of which the second and the third have an index that does not fit. -/
def misfits : List AlignmentPair := [⟨7, 2147483647⟩, ⟨0, 2147483648⟩, ⟨4294967296, 0⟩]

theorem flatten_alike_second_target :
    unused.Plain ∧ unused.Refuses misfits 1 .target 2147483648 := by
  have hplain : unused.Plain := ⟨⟨true, 0, [], rfl⟩, true, .made rfl⟩
  refine ⟨hplain, ?_⟩
  have hsecond : misfits[1]? = some ⟨0, 2147483648⟩ := rfl
  have hlarge : maxIndex < (AlignmentPair.index ⟨0, 2147483648⟩ .target).toNat := by decide
  have hfirst : ∀ j < 1, ∀ q, misfits[j]? = some q → q.Fits := by
    intro j hj q hq
    obtain rfl : j = 0 := by omega
    cases hq
    exact ⟨by decide, by decide⟩
  obtain ⟨-, ⟨hfits, -⟩ | ⟨position, p, side, hp, hl, hs, hf, hrefuses⟩⟩ :=
    flatten_alike hplain misfits
  · exact absurd (hfits _ (List.mem_of_getElem? hsecond)).2 (by decide)
  · obtain ⟨rfl, rfl, rfl⟩ := Alignment.first_misfit_unique hp hsecond hl hlarge hs
      (fun _ => by decide) hf hfirst
    exact hrefuses

end Sites

end DecoderExport
