import DecoderExport.Proofs.Provenance

/-!
# What values are made of

Values that are obtained by operations of an object model are well typed at every depth. Arrays hold
objects of one class. An object has the fields that its class had when the object was built, and no
field holds an object outside an array: no parameter takes one, and a field that nothing is assigned
to is null.
-/

namespace DecoderExport

theorem Value.class?_of_fits {v : Value} {kind : ParamKind} (h : v.fits kind = true) :
    v.class? = none := by
  cases v with
  | object stamp cls fields => cases kind <;> cases h
  | _ => rfl

/-- What a constructor accepts is no object. -/
theorem Constructor.class?_of_no_objection {c : Constructor} {args : List Value}
    (h : c.objection? args = none) : ∀ v ∈ args, v.class? = none := by
  have hadmits : c.signature.Admits args := admits_of_no_objection h
  exact ((List.forall₂_and_left _ _).1 (hadmits.imp fun _ _ hv => ⟨Value.class?_of_fits hv, hv⟩)).1

namespace Material

theorem class?_of_element {m : Material} {stamp i : Nat} {cls : String} {elements : List Value}
    (h : m.make stamp = .ok (.array i cls elements)) : ∀ y ∈ elements, y.class? = some cls := by
  cases m with
  | ints values => cases h
  | array made xs =>
    have hclass := ClassDef.class?_of_gather h
    cases ClassDef.eq_of_gather h
    exact hclass
  | object made c args => cases ClassDef.eq_of_make h

theorem fields_of_make {m : Material} {stamp i : Nat} {name : String}
    {fields : List (String × Value)} (h : m.make stamp = .ok (.object i name fields)) :
    (∃ cls c args, m = .object cls c args ∧ cls.name = name ∧
      fields.map Prod.fst = cls.fields) ∧ ∀ f ∈ fields, f.2.class? = none := by
  cases m with
  | ints values => cases h
  | array made xs => cases ClassDef.eq_of_gather h
  | object made c args =>
    have hargs := Constructor.class?_of_no_objection (ClassDef.objection_of_make h)
    cases ClassDef.eq_of_make h
    refine ⟨⟨made, c, args, rfl, rfl, (initialFields_spec _ _ _).1⟩, ?_⟩
    intro f hf
    rcases Value.mem_initialFields hf with hnull | hmem
    · rw [hnull]
      rfl
    · exact hargs f.2 hmem

end Material

namespace Bench

/-- At every depth of every value that is obtained, the elements of an array are objects of its
class, and the fields of an object are those of the class that it was built with. No field holds an
object. -/
theorem obtained_well_typed (w : World) (configs : Nat → Config) (ops : List Op) :
    let b := (start w configs).run ops
    let t := (start (Traced.ofWorld w) configs).run ops
    b.obtained = t.obtained.map Tracked.value ∧
    ∀ v ∈ b.obtained, ∀ x, x.Part v →
      (∀ stamp cls elements, x = .array stamp cls elements →
        ∀ y ∈ elements, y.class? = some cls) ∧
      ∀ stamp name fields, x = .object stamp name fields →
        (∃ cls c args, ⟨.object cls c args, x⟩ ∈ t.host.creations ∧ cls.name = name ∧
          fields.map Prod.fst = cls.fields) ∧
        ∀ f ∈ fields, f.2.class? = none := by
  intro b t
  have hrun := Traced.related_run w configs ops
  refine ⟨(Traced.eq_map_of_forall₂ hrun.obtained).1, ?_⟩
  intro v hv x hx
  obtain ⟨z, hz, rfl⟩ := Traced.known_of_obtained w configs ops hv hx
  cases hz with
  | plain hstamp =>
    -- arrays and objects have stamps
    constructor <;> (rintro _ _ _ rfl; cases hstamp)
  | @made k creation hk =>
    obtain ⟨m, x⟩ := creation
    have hmake := hrun.hosts.2.made k _ hk
    constructor
    · rintro stamp cls elements rfl
      exact m.class?_of_element hmake
    · rintro stamp name fields rfl
      obtain ⟨⟨cls, c, args, rfl, hname, hfields⟩, hnone⟩ := m.fields_of_make hmake
      exact ⟨⟨cls, c, args, List.mem_of_getElem? hk, hname, hfields⟩, hnone⟩

/-- A class is replaced by one of the same name with another field. An object of the former class
goes into an array of the latter one, and stays what it was. -/
theorem obtained_well_typed_of_replaced_class :
    let leaf : Constructor := ⟨⟨[.text]⟩, ["a"], none⟩
    let node : Constructor := ⟨⟨[.objects "C"]⟩, ["items"], none⟩
    let former : ClassDef :=
      ⟨"C", ["a"], [leaf], by simp [leaf, Constructor.Suits, Signature.arity]⟩
    let latter : ClassDef :=
      ⟨"C", ["items", "b"], [node], by simp [node, Constructor.Suits, Signature.arity]⟩
    let ops : List Op := [.register former, .newObject former leaf [.text "x"], .register latter,
      .newArray latter [0], .newObject latter node [.object 1]]
    let x : Value := .object 0 "C" [("a", .text "x")]
    let v : Value := .object 2 "C" [("items", .array 1 "C" [x]), ("b", .null)]
    let t := (start (Traced.ofWorld ⟨.empty, 0⟩) fun _ => {}).run ops
    v ∈ ((start (⟨.empty, 0⟩ : World) fun _ => {}).run ops).obtained ∧ x.Part v ∧
      ∃ cls c args, ⟨.object cls c args, x⟩ ∈ t.host.creations ∧ cls.fields = ["a"] := by
  intro leaf node former latter ops x v t
  have hv : v ∈ ((start (⟨.empty, 0⟩ : World) fun _ => {}).run ops).obtained :=
    List.mem_of_getElem? (i := 2) rfl
  have hx : x.Part v := .field List.mem_cons_self (.element List.mem_cons_self (.self x))
  have htyped := (obtained_well_typed ⟨.empty, 0⟩ (fun _ => {}) ops).2 v hv x hx
  obtain ⟨⟨cls, c, args, hmem, -, hfields⟩, -⟩ := htyped.2 0 "C" [("a", .text "x")] rfl
  exact ⟨hv, hx, cls, c, args, hmem, hfields.symm⟩

end Bench

end DecoderExport
