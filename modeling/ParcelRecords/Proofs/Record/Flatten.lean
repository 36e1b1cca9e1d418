import ParcelRecords.Proofs.OrderedMap.Merge
import ParcelRecords.Record.Basic

/-!
# Flat records

A flat record takes the leaves of a record at their joined names, depth first, and the last leaf of
a name is read. Fields are therefore independent: each gives its own leaves to the flat record, and
a name is read from the last field that gives it.

## Main definitions

* `Record.given?`: what one field gives to a name of the flat record
* `Record.lastGiven?`: what the last of some fields gives

## Main results

* `Record.flattenFields_eq`: flattening writes the leaves
* `Record.get?_flatten`: the last field that gives a name decides its value
-/

namespace ParcelRecords.Record

/-! ## Leaves -/

/-- The leaves of a value, each at its joined name under `path`. -/
def joinedLeaves (path : String) (leaves : List (List String × Json)) : List (String × Json) :=
  leaves.map fun l => (joinPath path l.1, l.2)

theorem joinedLeaves_append (path : String) (ls ms : List (List String × Json)) :
    joinedLeaves path (ls ++ ms) = joinedLeaves path ls ++ joinedLeaves path ms :=
  List.map_append

/-- Leaves below a key are joined under its name. -/
theorem joinedLeaves_below (path key : String) (ls : List (List String × Json)) :
    joinedLeaves path (ls.map fun l => (key :: l.1, l.2)) =
      joinedLeaves (joinKey path key) ls := by
  rw [joinedLeaves, List.map_map]
  rfl

mutual

/-- Flattening a value writes its leaves. -/
theorem flattenValue_eq (path : String) (flat : Record) (value : Json) :
    flattenValue path flat value = flat.insertAll (joinedLeaves path (leaves value)) := by
  cases value with
  | obj fields =>
    -- the fields are gathered in a record of their own before they are written
    have hfields := flattenFields_eq path .empty fields
    rw [flattenValue, leaves, hfields]
    exact OrderedMap.merge_ofList flat _
  | null => rfl
  | bool b => rfl
  | int i => rfl
  | float x => rfl
  | str s => rfl
  | arr items => rfl

/-- **Flattening writes the leaves** at their joined names, depth first. -/
theorem flattenFields_eq (path : String) (flat : Record) (fields : List (String × Json)) :
    flattenFields path flat fields = flat.insertAll (joinedLeaves path (leavesOf fields)) := by
  match fields with
  | [] => rfl
  | (key, value) :: rest =>
    have hvalue := flattenValue_eq (joinKey path key) flat value
    have hrest := flattenFields_eq path (flattenValue (joinKey path key) flat value) rest
    rw [flattenFields, hrest, hvalue, leavesOf, joinedLeaves_append, joinedLeaves_below,
      OrderedMap.insertAll_append]

end

theorem flatten_eq (path : String) (data : Record) :
    flatten path data = .ofList (joinedLeaves path (leafPaths data)) :=
  flattenFields_eq path .empty data.entries

/-! ## Fields -/

/-- What one field gives to a name of the flat record. -/
def given? (name : String) (field : String × Json) : Option Json :=
  (flatten "" (.ofList [field])).get? name

/-- What the last of some fields gives that gives anything. -/
def lastGiven? (name : String) (fields : List (String × Json)) : Option Json :=
  fields.reverse.findSome? (given? name)

theorem given?_eq (name : String) (field : String × Json) :
    given? name field = (joinedLeaves "" (leavesOf [field])).reverse.lookup name := by
  have hpaths : leafPaths (.ofList [field]) = leavesOf [field] := rfl
  rw [given?, flatten_eq, hpaths, OrderedMap.get?_ofList]

theorem leavesOf_eq_flatMap (fields : List (String × Json)) :
    leavesOf fields = fields.flatMap fun field => leavesOf [field] := by
  induction fields with
  | nil => rfl
  | cons field rest ih =>
    obtain ⟨key, value⟩ := field
    rw [leavesOf, List.flatMap_cons, ← ih, leavesOf, leavesOf, List.append_nil]

/-- **The last field that gives a name** decides its value in the flat record. -/
theorem get?_flatten (data : Record) (name : String) :
    (flatten "" data).get? name = lastGiven? name data.entries := by
  have hleaves : joinedLeaves "" (leafPaths data) =
      data.entries.flatMap fun field => joinedLeaves "" (leavesOf [field]) := by
    rw [joinedLeaves, leafPaths, leavesOf_eq_flatMap, List.map_flatMap]
    rfl
  rw [flatten_eq, hleaves, OrderedMap.get?_ofList, OrderedMap.lookup_reverse_flatMap, lastGiven?,
    funext (given?_eq name)]

/-! ## The deciding field -/

theorem lastGiven?_append (name : String) (fs gs : List (String × Json)) :
    lastGiven? name (fs ++ gs) = (lastGiven? name gs).or (lastGiven? name fs) := by
  rw [lastGiven?, List.reverse_append, List.findSome?_append]
  rfl

theorem lastGiven?_eq_none_iff {name : String} {fields : List (String × Json)} :
    lastGiven? name fields = none ↔ ∀ f ∈ fields, given? name f = none := by
  simp [lastGiven?]

/-- A name of the flat record has a deciding field, behind which none gives it. -/
theorem exists_deciding {name : String} {fields : List (String × Json)} {v : Json}
    (h : lastGiven? name fields = some v) :
    ∃ before field after, fields = before ++ field :: after ∧ given? name field = some v ∧
      lastGiven? name after = none := by
  obtain ⟨after, field, before, hsplit, hgiven, hafter⟩ := List.findSome?_eq_some_iff.1 h
  refine ⟨before.reverse, field, after.reverse, ?_, hgiven, ?_⟩
  · simpa using congrArg List.reverse hsplit
  · rw [lastGiven?_eq_none_iff]
    intro f hf
    exact hafter f (List.mem_reverse.1 hf)

/-- Whatever stands before a field that gives a name, only what is behind it can replace its
value. -/
theorem lastGiven?_append_cons {name : String} {field : String × Json} {v : Json}
    (h : given? name field = some v) (before after : List (String × Json)) :
    lastGiven? name (before ++ field :: after) = some ((lastGiven? name after).getD v) := by
  have hone : lastGiven? name [field] = some v := by
    simpa [lastGiven?] using h
  rw [lastGiven?_append, ← List.singleton_append, lastGiven?_append, hone]
  cases lastGiven? name after <;> rfl

end ParcelRecords.Record
