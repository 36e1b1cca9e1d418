import ParcelRecords.Binary64.Basic
import ParcelRecords.OrderedMap

/-!
# JSON values

The values that schemas, page data and service bodies are made of. Integers of any size and binary
numbers are kept apart, and the fields of an object keep their order.

## Main definitions

* `Json` is the type of values; an object is its list of fields.
* `Json.fields?` gives the fields of an object as an ordered map.
* `Json.Kind` names the sorts of values.
-/

namespace ParcelRecords

/-- A JSON value. -/
inductive Json where
  | null
  | bool (b : Bool)
  | int (i : Int)
  | float (x : Binary64)
  | str (s : String)
  | arr (items : List Json)
  | obj (fields : List (String × Json))

namespace Json

instance : Inhabited Json := ⟨.null⟩

/-- The sorts of JSON values. -/
inductive Kind where
  | null
  | bool
  | int
  | float
  | str
  | arr
  | obj
deriving DecidableEq

/-- The sort of a value. -/
def kind : Json → Kind
  | .null => .null
  | .bool _ => .bool
  | .int _ => .int
  | .float _ => .float
  | .str _ => .str
  | .arr _ => .arr
  | .obj _ => .obj

/-- The fields of an object; a repeated field keeps its first place and its last value. -/
def fields? : Json → Option (OrderedMap Json)
  | .obj fields => some (.ofList fields)
  | _ => none

end Json

end ParcelRecords
