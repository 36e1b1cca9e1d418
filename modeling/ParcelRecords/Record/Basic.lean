import ParcelRecords.Json.Basic

/-!
# Records

What a page yields: named values in the order of their first writing. Values may be objects
themselves; a flat record has none, its nested names joined by underscores.

## Main definitions

* `Record` is the type of records.
* `Record.joinKey` puts a name under a path.
* `Record.flatten` writes every value at its joined path, later ones over earlier ones.
* `Record.leafPaths` lists the values that are no objects with the names above them.
* `Record.joinPath` joins all names of a path.
-/

namespace ParcelRecords

/-- Named values of a page, in the order of their first writing. -/
abbrev Record := OrderedMap Json

namespace Record

/-- The joined name of `key` under `path`; an empty path adds nothing. -/
def joinKey (path key : String) : String :=
  if path = "" then key else path ++ "_" ++ key

mutual

/-- Writes a value at its path: an object as what its fields give, anything else as it is. -/
def flattenValue (path : String) (flat : Record) : Json → Record
  | .obj fields => flat.merge (flattenFields path .empty fields)
  | value => flat.insert path value

/-- Writes fields under a path from left to right. -/
def flattenFields (path : String) (flat : Record) : List (String × Json) → Record
  | [] => flat
  | (key, value) :: rest => flattenFields path (flattenValue (joinKey path key) flat value) rest

end

/-- The record with nested names joined, all of them under `path`. -/
def flatten (path : String) (data : Record) : Record :=
  flattenFields path .empty data.entries

/-! ## Leaves -/

mutual

/-- The values inside a value that are no objects, each with the names that lead to it. -/
def leaves : Json → List (List String × Json)
  | .obj fields => leavesOf fields
  | value => [([], value)]

/-- The values inside fields that are no objects, depth first. -/
def leavesOf : List (String × Json) → List (List String × Json)
  | [] => []
  | (key, value) :: rest => (leaves value).map (fun l => (key :: l.1, l.2)) ++ leavesOf rest

end

/-- The leaves of a record with the names above them, depth first. -/
def leafPaths (data : Record) : List (List String × Json) :=
  leavesOf data.entries

/-- The names of a path joined under `path`. -/
def joinPath (path : String) (names : List String) : String :=
  names.foldl joinKey path

end Record

end ParcelRecords
