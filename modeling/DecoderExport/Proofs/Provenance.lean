import DecoderExport.Proofs.Bench
import DecoderExport.Proofs.FieldRendering

/-!
# Where values come from

`Traced` is a world with a log of everything that has been made in it, and of what it was made of.
Its values carry the number of the creation that they stem from. Fields and elements are read from
the log: what is read is the very value that was put in, with its origin. A bench obtains in a
traced world what it obtains in the world alone (`Traced.related_run`).

No stamp goes into the log by itself. That stamps tell creations apart is what `Traced.Sound` says,
and every operation keeps it.
-/

namespace DecoderExport

/-- A value with the number of the creation that it stems from. -/
structure Tracked where
  value : Value
  origin : Option Nat

/-- The argument as a value. What is no object has not been created. -/
def Arg.tracked : Arg Tracked → Tracked
  | .text s => ⟨.text s, none⟩
  | .float x => ⟨.float x, none⟩
  | .object x => x

/-- The argument without its origin. -/
def Arg.plain : Arg Tracked → Arg Value
  | .text s => .text s
  | .float x => .float x
  | .object x => .object x.value

theorem Arg.toValue_plain (a : Arg Tracked) : a.plain.toValue = a.tracked.value := by
  cases a <;> rfl

/-- What something is made of. -/
inductive Material where
  | ints (values : List Int32)
  | array (cls : ClassDef) (elements : List Tracked)
  | object (cls : ClassDef) (c : Constructor) (args : List Tracked)

namespace Material

/-- What is made of a material under a stamp. -/
def make (stamp : Nat) : Material → Except (Fault Empty) Value
  | ints values => .ok (.ints stamp values)
  | array cls elements => cls.gather stamp (elements.map Tracked.value)
  | object cls c args => cls.make c stamp (args.map Tracked.value)

/-- The values that a material consists of. -/
def parts : Material → List Tracked
  | ints _ => []
  | array _ elements => elements
  | object _ _ args => args

/-- The argument that a field holds. -/
def field? (name : String) : Material → Option Tracked
  | object cls c args => cls.reading? c args ⟨.null, none⟩ name
  | _ => none

def element? (index : Nat) : Material → Option Tracked
  | array _ elements => elements[index]?
  | _ => none

theorem stamp?_of_make {m : Material} {stamp : Nat} {v : Value} (h : m.make stamp = .ok v) :
    v.stamp? = some stamp := by
  cases m with
  | ints values => cases h; rfl
  | array cls elements => rw [ClassDef.eq_of_gather h]; rfl
  | object cls c args => rw [ClassDef.eq_of_make h]; rfl

/-- Reading a value that has been made is reading what it was made of. -/
theorem field?_of_make {m : Material} {stamp : Nat} {v : Value} (h : m.make stamp = .ok v)
    (name : String) : v.field? name = (m.field? name).map Tracked.value := by
  cases m with
  | ints values => cases h; rfl
  | array cls elements => rw [ClassDef.eq_of_gather h]; rfl
  | object cls c args =>
    rw [ClassDef.field?_of_make h]
    exact cls.reading?_map Tracked.value c args ⟨.null, none⟩ name

theorem element?_of_make {m : Material} {stamp : Nat} {v : Value} (h : m.make stamp = .ok v)
    (index : Nat) :
    (v.elements?.bind fun elements => elements[index]?) =
      (m.element? index).map Tracked.value := by
  cases m with
  | ints values => cases h; rfl
  | array cls elements =>
    rw [ClassDef.eq_of_gather h]
    exact List.getElem?_map
  | object cls c args => rw [ClassDef.eq_of_make h]; rfl

/-- Elements are what the material supplies. -/
theorem exists_part_of_element {m : Material} {stamp i : Nat} {cls : String}
    {elements : List Value} (h : m.make stamp = .ok (.array i cls elements)) {v : Value}
    (hv : v ∈ elements) : ∃ x ∈ m.parts, x.value = v := by
  cases m with
  | ints values => cases h
  | array made xs =>
    cases ClassDef.eq_of_gather h
    exact List.mem_map.1 hv
  | object made c args => cases ClassDef.eq_of_make h

/-- Fields hold null or what the material supplies. -/
theorem exists_part_of_field {m : Material} {stamp i : Nat} {cls : String}
    {fields : List (String × Value)} (h : m.make stamp = .ok (.object i cls fields))
    {f : String × Value} (hf : f ∈ fields) : f.2 = .null ∨ ∃ x ∈ m.parts, x.value = f.2 := by
  cases m with
  | ints values => cases h
  | array made xs => cases ClassDef.eq_of_gather h
  | object made c args =>
    cases ClassDef.eq_of_make h
    exact (Value.mem_initialFields hf).imp_right List.mem_map.1

theorem mem_parts_of_field? {m : Material} {name : String} {x : Tracked}
    (h : m.field? name = some x) : x = ⟨.null, none⟩ ∨ x ∈ m.parts := by
  cases m with
  | ints values => cases h
  | array cls elements => cases h
  | object cls c args =>
    simp only [field?, ClassDef.reading?] at h
    split at h
    · cases hl : (c.assigns.zip args).reverse.lookup name with
      | none => exact .inl (by simpa [hl] using h.symm)
      | some y =>
        obtain ⟨before, after, hentries, -⟩ := List.lookup_eq_some_iff.1 hl
        have hmem : (name, y) ∈ c.assigns.zip args := by
          rw [← List.mem_reverse, hentries]
          exact List.mem_append_right _ List.mem_cons_self
        obtain rfl : y = x := by simpa [hl] using h
        exact .inr (List.of_mem_zip hmem).2
    · cases h

theorem mem_parts_of_element? {m : Material} {index : Nat} {x : Tracked}
    (h : m.element? index = some x) : x ∈ m.parts := by
  cases m with
  | ints values => cases h
  | array cls elements => exact List.mem_of_getElem? h
  | object cls c args => cases h

end Material

/-- Something that has been made. -/
structure Creation where
  material : Material
  value : Value

/-- A world with a log of what has been made in it. -/
structure Traced where
  world : World
  creations : List Creation

namespace Traced

/-- Puts the outcome of an attempt to make something into the log. -/
def record (t : Traced) (material : Material) : Reply World Empty Value → Reply Traced Empty Tracked
  | (.error f, world) => (.error f, { t with world })
  | (.ok value, world) =>
    (.ok ⟨value, some t.creations.length⟩, ⟨world, t.creations ++ [⟨material, value⟩]⟩)

/-- A world with an empty log. -/
def ofWorld (w : World) : Traced := ⟨w, []⟩

/-- What a value is made of. -/
def material? (t : Traced) (x : Tracked) : Option Material :=
  (x.origin.bind fun k => t.creations[k]?).map Creation.material

instance : Stand Traced Tracked where
  findClass name t :=
    let (reply, world) := t.world.findClass name
    (reply, { t with world })
  findConstructor cls signature t :=
    let (reply, world) := t.world.findConstructor cls signature
    (reply, { t with world })
  newObject cls c args t :=
    t.record (.object cls c (args.map Arg.tracked)) (t.world.newObject cls c (args.map Arg.plain))
  newInts values t := t.record (.ints values) (t.world.newInts values)
  newArray cls elements t :=
    t.record (.array cls elements) (t.world.newArray cls (elements.map Tracked.value))
  amend f t := { t with world := Stand.amend f t.world }
  field? x name t := (t.material? x).bind (Material.field? name)
  element? x index t := (t.material? x).bind (Material.element? index)

/-- The log bears out where a value stems from. -/
inductive Knows (t : Traced) : Tracked → Prop
  | plain {v : Value} (h : v.stamp? = none) : Knows t ⟨v, none⟩
  | made {k : Nat} {creation : Creation} (h : t.creations[k]? = some creation) :
    Knows t ⟨creation.value, some k⟩

/-- Everything in the log has been made of what it says, from known values, and under a stamp of its
own. The first creation in the log has the given stamp. -/
structure Sound (first : Nat) (t : Traced) : Prop where
  minted : t.world.minted = first + t.creations.length
  made (k : Nat) (creation : Creation) : t.creations[k]? = some creation →
    creation.material.make (first + k) = .ok creation.value
  parts (k : Nat) (creation : Creation) : t.creations[k]? = some creation →
    ∀ x ∈ creation.material.parts, t.Knows x

variable {first : Nat} {t t' : Traced}

theorem sound_ofWorld (w : World) : (ofWorld w).Sound w.minted :=
  ⟨rfl, nofun, nofun⟩

theorem Knows.mono {x : Tracked} (hx : t.Knows x) {more : List Creation}
    (h : t'.creations = t.creations ++ more) : t'.Knows x := by
  cases hx with
  | plain hv => exact .plain hv
  | @made k creation hk =>
    have hlt : k < t.creations.length := (List.getElem?_eq_some_iff.1 hk).1
    exact .made (by rw [h, List.getElem?_append_left hlt, hk])

/-- A change of the world that makes nothing. -/
theorem Sound.world (h : t.Sound first) {w : World} (hw : w.minted = t.world.minted) :
    Sound first { t with world := w } where
  minted := hw.trans h.minted
  made := h.made
  parts k creation hk x hx := (h.parts k creation hk x hx).mono (List.append_nil _).symm

theorem Sound.made_append (h : t.Sound first) {m : Material} {v : Value}
    (hm : m.make t.world.minted = .ok v) (hparts : ∀ x ∈ m.parts, t.Knows x) :
    Sound first ⟨t.world.mint, t.creations ++ [⟨m, v⟩]⟩ := by
  have hlast {k : Nat} {creation : Creation}
      (hk : (t.creations ++ [⟨m, v⟩])[k]? = some creation) :
      t.creations[k]? = some creation ∨ k = t.creations.length ∧ creation = ⟨m, v⟩ := by
    rw [List.getElem?_append] at hk
    split at hk
    · exact .inl hk
    · rename_i hlt
      obtain ⟨hk, hcreation⟩ := List.getElem?_eq_some_iff.1 hk
      simp only [List.length_singleton] at hk
      exact .inr ⟨by omega, by simpa using hcreation.symm⟩
  refine ⟨?_, ?_, ?_⟩
  · rw [World.minted_mint, h.minted, List.length_append, List.length_singleton, Nat.add_assoc]
  · intro k creation hk
    rcases hlast hk with hk | ⟨rfl, rfl⟩
    · exact h.made k creation hk
    · rw [← h.minted]
      exact hm
  · intro k creation hk x hx
    rcases hlast hk with hk | ⟨rfl, rfl⟩
    · exact (h.parts k creation hk x hx).mono rfl
    · exact (hparts x hx).mono rfl

/-- A traced world stands for the world in it, and its known values for themselves. -/
def tracing (first : Nat) : HostRelation Traced World Tracked Value where
  states t w := t.world = w ∧ t.Sound first
  objects t x v := x.value = v ∧ t.Knows x

/-- Making something is recorded, and a failure to make it is not. -/
theorem record_ends (h : t.Sound first) (m : Material) (hparts : ∀ x ∈ m.parts, t.Knows x)
    {reply : Reply World Empty Value}
    (hreply : reply = (m.make t.world.minted, t.world.attempted (m.make t.world.minted))) :
    (tracing first).Ends t (tracing first).objects (t.record m reply) reply := by
  subst hreply
  cases hm : m.make t.world.minted with
  | error f => exact .error f ⟨rfl, h⟩ (HostRelation.Lasts.refl t)
  | ok v =>
    have hlast : (t.creations ++ [⟨m, v⟩])[t.creations.length]? = some (⟨m, v⟩ : Creation) := by
      simp
    have hknows := Knows.made (t := ⟨t.world.mint, t.creations ++ [⟨m, v⟩]⟩) hlast
    refine .ok ⟨rfl, h.made_append hm hparts⟩ ?_ ⟨rfl, hknows⟩
    exact fun x v hx => ⟨hx.1, hx.2.mono rfl⟩

theorem eq_map_of_forall₂ {xs : List Tracked} {vs : List Value}
    (h : List.Forall₂ ((tracing first).objects t) xs vs) :
    vs = xs.map Tracked.value ∧ ∀ x ∈ xs, t.Knows x := by
  induction h with
  | nil => simp
  | cons hx _ ih => exact ⟨by rw [List.map_cons, hx.1, ih.1], List.forall_mem_cons.2 ⟨hx.2, ih.2⟩⟩

theorem eq_plain_of_forall₂ {args : List (Arg Tracked)} {args' : List (Arg Value)}
    (h : List.Forall₂ (Arg.Related ((tracing first).objects t)) args args') :
    args' = args.map Arg.plain ∧ ∀ x ∈ args.map Arg.tracked, t.Knows x := by
  induction h with
  | nil => simp
  | cons hx _ ih =>
    rw [List.map_cons, List.map_cons, List.forall_mem_cons, ih.1]
    cases hx with
    | text s => exact ⟨rfl, .plain rfl, ih.2⟩
    | float x => exact ⟨rfl, .plain rfl, ih.2⟩
    | object hx => exact ⟨by rw [Arg.plain, hx.1], hx.2, ih.2⟩

/-- A lookup makes nothing. -/
theorem lookup_ends (h : t.Sound first) {α : Type} (reply : Except (Fault Empty) α) {w : World}
    (hw : w.minted = t.world.minted) :
    (tracing first).Ends t (fun _ => Eq) (reply, { t with world := w }) (reply, w) := by
  have hlast : (tracing first).Lasts t { t with world := w } :=
    fun x v hx => ⟨hx.1, hx.2.mono (List.append_nil _).symm⟩
  cases reply with
  | error f => exact .error f ⟨rfl, h.world hw⟩ hlast
  | ok a => exact .ok ⟨rfl, h.world hw⟩ hlast rfl

/-- What is read of a known value is known, and it is what the value shows. -/
theorem Knows.rel_read {x : Tracked} (hx : t.Knows x) (h : t.Sound first)
    (read : Material → Option Tracked) (shown : Value → Option Value)
    (hnone : ∀ v : Value, v.stamp? = none → shown v = none)
    (hmake : ∀ m stamp v, Material.make stamp m = .ok v → shown v = (read m).map Tracked.value)
    (hparts : ∀ m y, read m = some y → y = ⟨.null, none⟩ ∨ y ∈ m.parts) :
    Option.Rel ((tracing first).objects t) ((t.material? x).bind read) (shown x.value) := by
  cases hx with
  | plain hv =>
    rw [hnone _ hv]
    exact .none
  | @made k creation hk =>
    have hm : t.material? ⟨creation.value, some k⟩ = some creation.material := by
      simp [material?, hk]
    rw [hm, hmake _ _ _ (h.made k creation hk), Option.bind_some]
    cases hy : read creation.material with
    | none => exact .none
    | some y =>
      rcases hparts _ y hy with rfl | hy
      · exact .some ⟨rfl, .plain rfl⟩
      · exact .some ⟨rfl, h.parts k creation hk y hy⟩

/-- A traced world and the world in it run in step. -/
theorem tracing_inStep (first : Nat) : (tracing first).ReadsAlike where
  findClass name t w h := by
    obtain ⟨rfl, h⟩ := h
    exact lookup_ends h _ rfl
  findConstructor cls signature t w h := by
    obtain ⟨rfl, h⟩ := h
    exact lookup_ends h _ rfl
  newObject cls c args args' t w h hargs := by
    obtain ⟨rfl, h⟩ := h
    obtain ⟨rfl, hknown⟩ := eq_plain_of_forall₂ hargs
    have hargs :
        (args.map Arg.plain).map Arg.toValue = (args.map Arg.tracked).map Tracked.value := by
      simp only [List.map_map, Function.comp_def, Arg.toValue_plain]
    refine record_ends h (.object cls c _) hknown ((World.newObject_eq cls c _ t.world).trans ?_)
    rw [hargs]
    rfl
  newInts values t w h := by
    obtain ⟨rfl, h⟩ := h
    exact record_ends h (.ints values) (fun x hx => absurd hx List.not_mem_nil) rfl
  newArray cls elements elements' t w h helements := by
    obtain ⟨rfl, h⟩ := h
    obtain ⟨rfl, hknown⟩ := eq_map_of_forall₂ helements
    exact record_ends h (.array cls _) hknown (World.newArray_eq cls _ t.world)
  amend f t w h := by
    obtain ⟨rfl, h⟩ := h
    exact ⟨⟨rfl, h.world rfl⟩, fun x v hx => ⟨hx.1, hx.2.mono (List.append_nil _).symm⟩⟩
  field? name x v t w h hx := by
    obtain ⟨rfl, h⟩ := h
    obtain ⟨rfl, hx⟩ := hx
    exact hx.rel_read h (Material.field? name) (fun v => v.field? name)
      (fun v hv => by cases v <;> first | rfl | cases hv)
      (fun m stamp v hm => m.field?_of_make hm name)
      (fun m y hy => m.mem_parts_of_field? hy)
  element? index x v t w h hx := by
    obtain ⟨rfl, h⟩ := h
    obtain ⟨rfl, hx⟩ := hx
    exact hx.rel_read h (Material.element? index)
      (fun v => v.elements?.bind fun elements => elements[index]?)
      (fun v hv => by cases v <;> first | rfl | cases hv)
      (fun m stamp v hm => m.element?_of_make hm index)
      (fun m y hy => .inr (m.mem_parts_of_element? hy))

/-- The values on a bench are known to the log, and they are the values that are obtained without
it. -/
theorem related_run (w : World) (configs : Nat → Config) (ops : List Op) :
    Bench.Related (tracing w.minted) ((Bench.start (ofWorld w) configs).run ops)
      ((Bench.start w configs).run ops) :=
  (Bench.related_start (r := tracing w.minted) ⟨rfl, sound_ofWorld w⟩ configs).run
    (tracing_inStep w.minted) ops

end Traced

/-! ### Parts of known values -/

/-- A value lies in another one at some depth, as an element or in a field. -/
inductive Value.Part : Value → Value → Prop
  | self (v : Value) : Part v v
  | element {x y : Value} {stamp : Nat} {cls : String} {elements : List Value} (hy : y ∈ elements)
    (hx : Part x y) : Part x (.array stamp cls elements)
  | field {x : Value} {stamp : Nat} {cls : String} {fields : List (String × Value)}
    {f : String × Value} (hf : f ∈ fields) (hx : Part x f.2) : Part x (.object stamp cls fields)

namespace Traced

variable {first : Nat} {t : Traced}

/-- What lies in a known value is known. -/
theorem Sound.known_part (h : t.Sound first) {x v : Value} (hx : x.Part v) :
    ∀ y, t.Knows y → y.value = v → ∃ z, t.Knows z ∧ z.value = x := by
  induction hx with
  | self => exact fun y hy hv => ⟨y, hy, hv⟩
  | element hmem _ ih =>
    rintro _ (hstamp | hk) hv
    · cases hv
      cases hstamp
    · have hmake := (h.made _ _ hk).trans (congrArg Except.ok hv)
      obtain ⟨z, hz, hzv⟩ := Material.exists_part_of_element hmake hmem
      exact ih z (h.parts _ _ hk z hz) hzv
  | field hmem _ ih =>
    rintro _ (hstamp | hk) hv
    · cases hv
      cases hstamp
    · have hmake := (h.made _ _ hk).trans (congrArg Except.ok hv)
      rcases Material.exists_part_of_field hmake hmem with hnull | ⟨z, hz, hzv⟩
      · exact ih ⟨.null, none⟩ (.plain rfl) hnull.symm
      · exact ih z (h.parts _ _ hk z hz) hzv

/-- Everything at any depth of a value on a bench is known to the log. -/
theorem known_of_obtained (w : World) (configs : Nat → Config) (ops : List Op) {v x : Value}
    (hv : v ∈ ((Bench.start w configs).run ops).obtained) (hx : x.Part v) :
    ∃ z, ((Bench.start (ofWorld w) configs).run ops).host.Knows z ∧ z.value = x := by
  have hrun := related_run w configs ops
  obtain ⟨hvalues, hknown⟩ := eq_map_of_forall₂ hrun.obtained
  rw [hvalues] at hv
  obtain ⟨y, hy, hyv⟩ := List.mem_map.1 hv
  exact hrun.hosts.2.known_part hx y (hknown y hy) hyv

end Traced

end DecoderExport
