import DecoderExport.Scripting.Attribute

/-!
# Lists and tuples

What the methods of lists and tuples do. Looking for an item takes the first that is the same datum
or equals it. Indices below zero count from the end.
-/

namespace DecoderExport.Scripting

/-- The refusal of an index that lies outside. -/
def outOfRange (what : String) : Raised := .standard "IndexError" (what ++ " out of range")

/-- The place that an index stands for among so many items. -/
def placeOf? (index : Int) (count : Nat) : Option Nat :=
  let place := if index < 0 then index + count else index
  if 0 ≤ place && place < count then some place.toNat else none

namespace Action

/-- Whether an item is the same as a datum or equals it. -/
def matchesItem (d item : Datum) : Action Bool := do
  if item.isSame d then return true else item.equal (← get).lists d

/-- The places at which a datum is found among items. -/
def placesOf (d : Datum) (items : List Datum) : Action (List Nat) := do
  let found ← items.zipIdx.mapM fun (item, i) => return (i, ← matchesItem d item)
  return (found.filter (·.2)).map (·.1)

/-- What the method of a list or a tuple does that leaves it as it is; nothing when it is another
method. -/
def askItems? (isList : Bool) (items : List Datum) (method : String) (args : List Datum) :
    Option (Action Datum) :=
  let kind := if isList then "list" else "tuple"
  match method, args with
  | "count", [d] => some do int (← placesOf d items).length
  | "count", _ =>
    some (throw (.typeError s!"{kind}.count() takes exactly one argument ({args.length} given)"))
  | "index", [d] => some do
    match (← placesOf d items).head? with
    | some place => int place
    | none =>
      if isList then throw (.valueError ((← (← get).shown d) ++ " is not in list"))
      else throw (.valueError "tuple.index(x): x not in tuple")
  | "index", [] =>
    some (throw (.typeError "index expected at least 1 argument, got 0"))
  | "__contains__", [d] => some do return .bool !(← placesOf d items).isEmpty
  | "__getitem__", [d] => some do
    match d with
    | .int _ _ | .bool _ =>
      match (placeOf? (← d.readInt) items.length).bind (items[·]?) with
      | some item => return item
      | none => throw (outOfRange (kind ++ " index"))
    | d => throw (.typeError s!"{kind} indices must be integers or slices, not {d.typeName}")
  | _, _ => none

/-- What the method of a list does that changes it or copies it; nothing when it is another
method. -/
def changeItems? (address : Nat) (items : List Datum) (method : String) (args : List Datum) :
    Option (Action Datum) :=
  let become items := some (do keepItems address items; return Datum.nothing)
  let count := args.length
  match method, args with
  | "append", [d] => become (items ++ [d])
  | "extend", [d] => some do
    keepItems address (items ++ (← itemsOf d))
    return .nothing
  | "clear", [] => become []
  | "reverse", [] => become items.reverse
  | "copy", [] => some (list items)
  | "insert", [index, d] => some do
    let index ← index.readInt
    let place := if index < 0 then (index + items.length).toNat else index.toNat
    keepItems address (items.take place ++ d :: items.drop place)
    return .nothing
  | "insert", _ => some (throw (.typeError s!"insert expected 2 arguments, got {count}"))
  | "remove", [d] => some do
    match (← placesOf d items).head? with
    | some place =>
      keepItems address (items.eraseIdx place)
      return .nothing
    | none => throw (.valueError "list.remove(x): x not in list")
  | "pop", [] | "pop", [_] => some do
    let index ← ((args.head?).map Datum.readInt).getD (.ok (-1))
    if items.isEmpty then throw (.standard "IndexError" "pop from empty list")
    match placeOf? index items.length with
    | some place =>
      keepItems address (items.eraseIdx place)
      return (items[place]?).getD .nothing
    | none => throw (outOfRange "pop index")
  | "pop", _ => some (throw (.typeError s!"pop expected at most 1 argument, got {count}"))
  | "__setitem__", [index, d] => some do
    match placeOf? (← index.readInt) items.length with
    | some place =>
      keepItems address (items.set place d)
      return .nothing
    | none => throw (outOfRange "list assignment index")
  | "__init__", [] => become []
  | "__init__", [d] => some do
    keepItems address (← itemsOf d)
    return .nothing
  | "__init__", _ => some (throw (.typeError s!"list expected at most 1 argument, got {count}"))
  | _, _ => none

/-- What the method of a list or a tuple does; nothing when it is another method. -/
def callOnItems (d : Datum) (method : String) (args : List Datum) :
    Action (Option (Action Datum)) := do
  match d with
  | .tuple _ items => return askItems? false items method args
  | .list a =>
    let items := (← get).lists.items a
    return (askItems? true items method args).orElse fun _ => changeItems? a items method args
  | _ => return none

end Action

end DecoderExport.Scripting
