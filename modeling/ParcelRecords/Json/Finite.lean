import ParcelRecords.Json.Basic

/-!
# Finite values

JSON in the strict sense has no infinite numbers and no value that is no number.

## Main definitions

* `Json.isFinite` tells whether all numbers of a value are finite.
-/

namespace ParcelRecords.Json

mutual

/-- Whether all numbers of a value are finite. -/
def isFinite : Json → Bool
  | .float x => x.isFinite
  | .arr items => areFinite items
  | .obj fields => fieldsFinite fields
  | _ => true

/-- Whether all numbers of some values are finite. -/
def areFinite : List Json → Bool
  | [] => true
  | item :: rest => isFinite item && areFinite rest

/-- Whether all numbers of some fields are finite. -/
def fieldsFinite : List (String × Json) → Bool
  | [] => true
  | (_, value) :: rest => isFinite value && fieldsFinite rest

end

end ParcelRecords.Json
