import ParcelRecords.Json.Basic
import ParcelRecords.Text.CodePoint

/-!
# Writable values

Bytes stand for the JSON text of a value if they stand for all texts in it.

## Main definitions

* `Json.isWritable` tells whether no text and no key of a value holds half of a pair.
-/

namespace ParcelRecords.Json

mutual

/-- Whether bytes stand for all texts of a value. -/
def isWritable : Json → Bool
  | .str s => Text.isWritable s
  | .arr items => areWritable items
  | .obj fields => fieldsWritable fields
  | _ => true

/-- Whether bytes stand for all texts of some values. -/
def areWritable : List Json → Bool
  | [] => true
  | item :: rest => isWritable item && areWritable rest

/-- Whether bytes stand for all keys and texts of some fields. -/
def fieldsWritable : List (String × Json) → Bool
  | [] => true
  | (key, value) :: rest => Text.isWritable key && isWritable value && fieldsWritable rest

end

end ParcelRecords.Json
