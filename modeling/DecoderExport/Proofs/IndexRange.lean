import DecoderExport.Proofs.IndexLiteral
import DecoderExport.Proofs.LastError
import DecoderExport.Proofs.PayloadSpelling
import DecoderExport.Proofs.Respelling

/-!
# Index literals never wrap

An output whose alignment is written in number literals of any kind and length. A literal that is
not plain is refused while reading, a plain one that exceeds the transfer width is refused by the
export, which names the first of them, and otherwise the indices are the numbers as they are
written.
-/

namespace DecoderExport

open DecoderExport.Json

/-- An alignment pair in number literals. -/
structure LiteralPair where
  source : Literal
  target : Literal

namespace LiteralPair

/-- The literal on one side of a pair. -/
def literal (p : LiteralPair) : Side → Literal
  | .source => p.source
  | .target => p.target

/-- Whether both literals are plain. -/
def Plain (p : LiteralPair) : Prop := p.source.Plain ∧ p.target.Plain

/-- Whether both numbers fit the transfer width. -/
def Fits (p : LiteralPair) : Prop :=
  p.source.number ≤ maxIndex ∧ p.target.number ≤ maxIndex

/-- A pair as it stands. -/
def Written (p : LiteralPair) : Spelling := Enclosed .list [p.source.Written, p.target.Written]

/-- The pair of indices that is written. -/
def pair (p : LiteralPair) : AlignmentPair := ⟨p.source.index, p.target.index⟩

variable {p : LiteralPair}

theorem Plain.written_eq (h : p.Plain) : p.Written = p.pair.Spelled := by
  simp only [Written, AlignmentPair.Spelled, pair, h.1.written_eq, h.2.written_eq]

theorem Plain.toNat_index (h : p.Plain) (side : Side) :
    (p.pair.index side).toNat = (p.literal side).number := by
  cases side
  · exact h.1.toNat_index
  · exact h.2.toNat_index

theorem Plain.fits_iff (h : p.Plain) : p.pair.Fits ↔ p.Fits := by
  simp only [AlignmentPair.Fits, Fits, pair, h.1.toNat_index, h.2.toNat_index]

/-- A pair fails at its first literal that is not plain. -/
theorem fails_of_not_plain (h : ¬ p.Plain) :
    ∃ q, Fails AlignmentPair.reader (fun _ => True) q ∧ ∀ s t, p.Written s t → q s := by
  by_cases hs : p.source.Plain
  · have ht : ¬ p.target.Plain := fun ht => h ⟨hs, ht⟩
    have hfails : Fails (pairOf index) (fun _ => True)
        (EnclosedUntil .list ([p.source.index].map Index) p.target.At) :=
      pairOf_fails index_reads (Literal.index_fails ht) Nat.one_lt_two
    refine ⟨_, hfails.map _, ?_⟩
    rintro s t ⟨r, rfl, hr⟩
    rw [hs.written_eq] at hr
    have hr : Items .list true ([p.source.index].map Index ++ p.target.Written :: []) r t := hr
    exact ⟨r, rfl, hr.until fun x y hxy hy => ⟨y, hxy, hy⟩⟩
  · have hfails : Fails (pairOf index) (fun _ => True)
        (EnclosedUntil .list ([].map Index) p.source.At) :=
      pairOf_fails index_reads (Literal.index_fails hs) Nat.two_pos
    refine ⟨_, hfails.map _, ?_⟩
    rintro s t ⟨r, rfl, hr⟩
    have hr : Items .list true ([].map Index ++ p.source.Written :: [p.target.Written]) r t := hr
    exact ⟨r, rfl, hr.until fun x y hxy hy => ⟨y, hxy, hy⟩⟩

/-- The first literal in reading order that exceeds the transfer width: it stands on a side of the
pair at a position, and writes a number. -/
structure FirstLarge (ls : List LiteralPair) (k : Nat) (side : Side) (n : Nat) : Prop where
  here : ∃ p, ls[k]? = some p ∧ (p.literal side).number = n ∧
    (side = .target → p.source.number ≤ maxIndex)
  large : maxIndex < n
  before : ∀ j < k, ∀ p, ls[j]? = some p → p.Fits

end LiteralPair

namespace DecoderOutput

/-- The alignment of an output. -/
def alignmentField : FieldSpelling DecoderOutput :=
  ⟨"alignment", fun o => Enclosed .list (o.alignment.map AlignmentPair.Spelled),
    fun o => o.alignment = []⟩

/-- An alignment in number literals. -/
def literalField (ls : List LiteralPair) : FieldSpelling DecoderOutput :=
  ⟨"alignment", fun _ => Enclosed .list (ls.map LiteralPair.Written), fun _ => ls = []⟩

/-- The spellings of an output whose alignment is written in number literals. -/
def SpelledWith (ls : List LiteralPair) (o : DecoderOutput) : Spelling :=
  RecordForm (respelled fields (literalField ls)) o

/-- The output with the alignment that is written. -/
def withAlignment (o : DecoderOutput) (ls : List LiteralPair) : DecoderOutput :=
  { o with alignment := ls.map LiteralPair.pair }

variable {o : DecoderOutput} {ls : List LiteralPair} {text : String}

/-- An output fails at an alignment pair that fails. -/
theorem alignment_fails (o : DecoderOutput) (ps : List AlignmentPair) {why : Cause → Prop}
    {q : List Char → Prop} (hq : Fails AlignmentPair.reader why q) :
    Fails reader why (RecordUntil fields o alignmentField
      (EnclosedUntil .list (ps.map AlignmentPair.Spelled) q)) := by
  have hlist := listOf_fails AlignmentPair.reader_reads hq ps
  apply recordUntil_fails o.shape_follows (by simp [fields, alignmentField])
  refine List.forall_mem_cons.2 ⟨fun h => absurd h (by decide), ?_⟩
  refine List.forall_mem_cons.2 ⟨fun h => absurd h (by decide), ?_⟩
  refine List.forall_mem_cons.2 ⟨fun h => absurd h (by decide), ?_⟩
  exact List.forall_mem_cons.2 ⟨fun _ => hlist.map _, List.forall_mem_nil _⟩

theorem written_eq (h : ∀ p ∈ ls, p.Plain) :
    ls.map LiteralPair.Written = (ls.map LiteralPair.pair).map AlignmentPair.Spelled := by
  rw [List.map_map]
  exact List.map_congr_left fun p hp => (h p hp).written_eq

/-- Plain literals are read as their numbers. -/
theorem whole_of_plain (h : ∀ p ∈ ls, p.Plain) (hdoc : Document (o.SpelledWith ls) text) :
    reader.whole text = .ok (o.withAlignment ls) := by
  apply (o.withAlignment ls).reader_reads.whole
  obtain ⟨s, t, hs, hform, ht⟩ := hdoc
  refine ⟨s, t, hs, recordForm_of_respelled ?_ hform, ht⟩
  simp [fields, nbestField, literalField, FieldSpelling.respelled, withAlignment, written_eq h]

/-- Any other literal makes the output unreadable. -/
theorem whole_of_not_plain (h : ¬ ∀ p ∈ ls, p.Plain) (hdoc : Document (o.SpelledWith ls) text) :
    ∃ e, reader.whole text = .error e := by
  classical
  -- The reader gives up at the first pair with such a literal.
  obtain ⟨p, hfind⟩ : ∃ p, ls.find? (fun p => ¬ p.Plain) = some p := by
    apply Option.isSome_iff_exists.1
    simpa using h
  obtain ⟨hp, before, after, rfl, hbefore⟩ := List.find?_eq_some_iff_append.1 hfind
  simp only [decide_eq_true_eq] at hp
  have hplain : ∀ p ∈ before, p.Plain := by simpa using hbefore
  obtain ⟨q, hq, hwritten⟩ := LiteralPair.fails_of_not_plain hp
  obtain ⟨s, t, hs, hform, -⟩ := hdoc
  have huntil : RecordUntil fields o alignmentField
      (EnclosedUntil .list ((before.map LiteralPair.pair).map AlignmentPair.Spelled) q) s := by
    refine recordUntil_of_respelled ?_ ?_ ?_ ?_ ?_ hform
    · simp [fields, alignmentField]
    · rfl
    · simp [fields, nbestField, alignmentField, literalField]
    · simp [literalField]
    · rintro x y ⟨r, rfl, hr⟩ -
      refine ⟨r, rfl, ?_⟩
      rw [List.map_append, List.map_cons, written_eq hplain] at hr
      exact hr.until fun u v huv _ => hwritten u v huv
  obtain ⟨e, he, -⟩ := (alignment_fails o (before.map LiteralPair.pair) hq).whole ⟨s, hs, huntil⟩
  exact ⟨e, he⟩

/-- Plain literals that fit are indices that fit. -/
theorem fits_withAlignment (h : ∀ p ∈ ls, p.Plain) :
    (∀ p ∈ (o.withAlignment ls).alignment, p.Fits) ↔ ∀ p ∈ ls, p.Fits := by
  simp only [withAlignment, List.forall_mem_map]
  exact forall₂_congr fun p hp => (h p hp).fits_iff

/-- Of plain literals that do not all fit, the first that does not is the one that is reported. -/
theorem encode_withAlignment (h : ∀ p ∈ ls, p.Plain) (hall : ¬ ∀ p ∈ ls, p.Fits) :
    ∃ k side n, LiteralPair.FirstLarge ls k side n ∧
      (Alignment.encode (o.withAlignment ls).alignment : Except (Fault Empty) Alignment) =
        .error (.narrowing k side n maxIndex) := by
  rw [← fits_withAlignment (o := o) h] at hall
  obtain ⟨f, hf⟩ := Alignment.encode_error_of_not_fits (ρ := Empty) hall
  obtain ⟨k, q, side, hk, rfl, hlarge, hsource, hbefore⟩ := Alignment.encode_error hf
  obtain ⟨p, hp, rfl⟩ : ∃ p, ls[k]? = some p ∧ p.pair = q := by
    simpa [withAlignment] using hk
  have hplain := h p (List.mem_of_getElem? hp)
  rw [hplain.toNat_index] at hlarge hf
  refine ⟨k, side, _, ⟨⟨p, hp, rfl, ?_⟩, hlarge, ?_⟩, hf⟩
  · intro hside
    exact hplain.1.toNat_index ▸ hsource hside
  · intro j hj p' hp'
    apply (h p' (List.mem_of_getElem? hp')).fits_iff.1
    exact hbefore j hj p'.pair (by simp [withAlignment, hp'])

end DecoderOutput

namespace Boundary

open DecoderOutput

theorem controlFree_repr (n : Nat) : ControlFree (Nat.repr n).toList := by
  rw [toList_repr]
  exact .of_numberText (.digits n)

/-- The words of a narrowing fault are handed over as they are. -/
theorem reportable_narrowing (k : Nat) (side : Side) (n : Nat) :
    reportable (Fault.narrowing (ρ := Empty) k side n maxIndex).message =
      s!"Narrowing error: {side.text} index {n} of alignment pair {k} exceeds {maxIndex}" := by
  have hside : ControlFree side.text.toList := by
    cases side <;> exact .of_all rfl
  have hwords : ControlFree ("Narrowing error: " ++ side.text ++ " index " ++ n.repr ++
      " of alignment pair " ++ k.repr ++ " exceeds " ++ maxIndex.repr).toList := by
    simp only [String.toList_append]
    exact (((((((ControlFree.of_all rfl).append hside).append (.of_all rfl)).append
      (controlFree_repr n)).append (.of_all rfl)).append (controlFree_repr k)).append
      (.of_all rfl)).append (controlFree_repr maxIndex)
  apply if_pos
  rw [CString.isSome_ofText?_iff]
  exact fun h => absurd (hwords _ h) (by decide)

/-- Plain literals that fit are exported as the indices that they write. -/
theorem exportJson_of_literals {o : DecoderOutput} {ls : List LiteralPair} {text : String}
    (includeSource : Bool) (h : ∀ p ∈ ls, p.Plain ∧ p.Fits)
    (hdoc : Document (o.SpelledWith ls) text) :
    ((Context.ofConfig { includeSource }).exportJson text).1 =
      .ok ((o.withAlignment ls).exported includeSource).render := by
  obtain ⟨hplain, hfits⟩ := forall₂_and.1 h
  simp only [Context.exportJson, Context.readOutput, whole_of_plain hplain hdoc]
  exact (Context.Serves.ofConfig _).exportOutput_of_default rfl rfl
    ((fits_withAlignment hplain).2 hfits)

namespace Library

/-- What is left to do for a single export whose configuration and input are known. -/
theorem step_exportOnce {env : Environment} {config : Argument} {c : Config} {input : CString}
    {text : String} (lib : Library) (hconfig : loadConfig env config = .ok c)
    (htext : input.text = .ok text) :
    lib.step env (.exportOnce (some input) config true) =
      lib.deliver ((Context.ofConfig c).exportJson text).1 := by
  have houtcome : exportOnce env (some input) config true =
      ((Context.ofConfig c).exportJson text).1 := by
    simp only [exportOnce, if_true, hconfig, exportWith, htext]
    rfl
  exact congrArg lib.deliver houtcome

/-- A single export of an output whose alignment is written in number literals. A literal that is
not plain makes it a JSON error. If all are plain, the first that exceeds the transfer width is
named by its side, its number and the position of its pair. If none does, the numbers are exported
as they are written. -/
theorem exportOnce_index_literals {env : Environment} {config : Argument} {includeSource : Bool}
    {input : CString} {text : String} {o : DecoderOutput} {ls : List LiteralPair} (lib : Library)
    (hconfig : loadConfig env config = .ok { includeSource })
    (htext : input.text = .ok text) (hdoc : Document (o.SpelledWith ls) text) :
    ∃ answer after, lib.step env (.exportOnce (some input) config true) = (answer, after) ∧
      ((¬ ∀ p ∈ ls, p.Plain) ∧ answer = .output .jsonError none ∨
        (∀ p ∈ ls, p.Plain) ∧ answer = .output .narrowingError none ∧
          (∃ k side n, LiteralPair.FirstLarge ls k side n ∧ after.lastError = some
            s!"Narrowing error: {side.text} index {n} of alignment pair {k} exceeds {maxIndex}") ∨
        (∀ p ∈ ls, p.Plain ∧ p.Fits) ∧ ∃ out pairs, answer = .output .success (some (some out)) ∧
          pairs.map (fun p => (p.source.toNat, p.target.toNat)) =
            ls.map (fun p => (p.source.number, p.target.number)) ∧
          out.bytes =
            Text.encodeUtf8 ({ o with alignment := pairs }.exported includeSource).render) := by
  rw [lib.step_exportOnce hconfig htext]
  refine ⟨_, _, Prod.mk.eta.symm, ?_⟩
  by_cases hplain : ∀ p ∈ ls, p.Plain
  · by_cases hall : ∀ p ∈ ls, p.Fits
    · have h : ∀ p ∈ ls, p.Plain ∧ p.Fits := forall₂_and.2 ⟨hplain, hall⟩
      obtain ⟨out, hout, hbytes⟩ := lib.deliver_render ((o.withAlignment ls).exported includeSource)
      rw [exportJson_of_literals includeSource h hdoc, hout]
      refine .inr (.inr ⟨h, out, _, rfl, ?_, hbytes⟩)
      rw [List.map_map]
      exact List.map_congr_left fun p hp =>
        Prod.ext (hplain p hp).1.toNat_index (hplain p hp).2.toNat_index
    · obtain ⟨k, side, n, hfirst, ha⟩ := encode_withAlignment (o := o) hplain hall
      simp only [Context.exportJson, Context.readOutput, whole_of_plain hplain hdoc,
        (Context.Serves.ofConfig _).exportOutput_of_error ha, deliver_error]
      exact .inr (.inl ⟨hplain, rfl, k, side, n, hfirst,
        congrArg some (reportable_narrowing k side n)⟩)
  · obtain ⟨e, he⟩ := whole_of_not_plain hplain hdoc
    simp only [Context.exportJson, Context.readOutput, he]
    exact .inl ⟨hplain, rfl⟩

/-- A pair with an index that would be zero if it wrapped. -/
def wrappingPair : LiteralPair := ⟨.ofNat 0, .ofNat 4294967296⟩

/-- An output with this pair. -/
def wrappingText : String := "\x7b\"text\":\"\",\"alignment\":[[0,4294967296]]\x7d"

theorem wrappingText_spells : Document (SpelledWith [wrappingPair] ⟨"", none, [], []⟩)
    wrappingText := by
  have hchars : wrappingText.toList = ['\x7b', '"', 't', 'e', 'x', 't', '"', ':', '"', '"', ',',
      '"', 'a', 'l', 'i', 'g', 'n', 'm', 'e', 'n', 't', '"', ':', '[', '[', '0', ',', '4', '2', '9',
      '4', '9', '6', '7', '2', '9', '6', ']', ']', '\x7d'] := by decide
  have hpair (t) : wrappingPair.Written ('[' :: '0' :: ',' :: '4' :: '2' :: '9' :: '4' :: '9' ::
      '6' :: '7' :: '2' :: '9' :: '6' :: ']' :: t) t :=
    ⟨_, rfl, .item (.first (.none _)) rfl
      (.item (.next (.none _) (.none _)) rfl (.close (.none _)))⟩
  refine ⟨_, [], .none _, .inl ⟨["text", "alignment"], by decide, ?_, ?_⟩, .none _⟩
  · simp [respelled, fields, nbestField, literalField, FieldSpelling.respelled]
  · rw [hchars]
    refine ⟨_, rfl, ?_⟩
    apply Items.item (.first (.none _))
    · exact ⟨_, ⟨_, _, text_stringText "text" _, .none _, .none _⟩, text_stringText "" _⟩
    apply Items.item (.next (.none _) (.none _))
    · exact ⟨_, ⟨_, _, text_stringText "alignment" _, .none _, .none _⟩,
        _, rfl, .item (.first (.none _)) (hpair _) (.close (.none _))⟩
    exact .close (.none _)

theorem exportOnce_index_literals_wrapping :
    ∃ after, fresh.step [] (.exportOnce (some (.cut (Text.encodeUtf8 wrappingText))) none true) =
        (.output .narrowingError none, after) ∧ after.lastError = some
          "Narrowing error: target index 4294967296 of alignment pair 0 exceeds 2147483647" := by
  have htext : (CString.cut (Text.encodeUtf8 wrappingText)).text = .ok wrappingText := by rfl
  have hplain : ∀ p ∈ [wrappingPair], p.Plain :=
    List.forall_mem_singleton.2 ⟨⟨rfl, rfl, rfl, by decide⟩, ⟨rfl, rfl, rfl, by decide⟩⟩
  have hconfig : loadConfig [] none = .ok { includeSource := true } := rfl
  obtain ⟨answer, after, hstep, ⟨hnot, -⟩ | ⟨-, rfl, k, side, n, hfirst, hlast⟩ | ⟨hall, -⟩⟩ :=
    exportOnce_index_literals fresh hconfig htext wrappingText_spells
  · exact absurd hplain hnot
  · obtain ⟨⟨p, hp, rfl, -⟩, hlarge, -⟩ := hfirst
    obtain ⟨rfl, rfl⟩ : k = 0 ∧ wrappingPair = p := by
      rwa [List.getElem?_singleton, Option.ite_none_right_eq_some, Option.some.injEq] at hp
    refine ⟨after, hstep, hlast.trans ?_⟩
    cases side
    · exact absurd hlarge (by decide)
    · rfl
  · obtain ⟨-, -, hsmall⟩ := hall _ (List.mem_singleton_self _)
    exact absurd hsmall (by decide)

end Library

end Boundary

end DecoderExport
