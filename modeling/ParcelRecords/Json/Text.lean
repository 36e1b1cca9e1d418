import ParcelRecords.Binary64.Text
import ParcelRecords.Json.Basic
import ParcelRecords.Text.Quoted

/-!
# The text of a value

How a value reads where text is wanted: as a required text of a table, and inside a cell of a sheet.
A string stands for itself; lists and objects are listed with their members, strings in quotes.

## Main definitions

* `Json.listed` writes a value as it stands inside a list.
* `Json.toText` writes a value by itself.
-/

namespace ParcelRecords.Json

/-- Members with commas between them. -/
def commaSeparated : List String → String
  | [] => ""
  | [m] => m
  | m :: rest => m ++ ", " ++ commaSeparated rest

mutual

/-- A value as a member of a list or an object. -/
def listed : Json → String
  | .null => "None"
  | .bool true => "True"
  | .bool false => "False"
  | .int i => toString i
  | .float x => x.toText .cell
  | .str s => Text.quoted s
  | .arr items => "[" ++ commaSeparated (listedItems items) ++ "]"
  | .obj fields => "\x7b" ++ commaSeparated (listedFields fields) ++ "\x7d"

/-- The members of a list. -/
def listedItems : List Json → List String
  | [] => []
  | item :: rest => listed item :: listedItems rest

/-- The members of an object, each with its key. -/
def listedFields : List (String × Json) → List String
  | [] => []
  | (key, value) :: rest => (Text.quoted key ++ ": " ++ listed value) :: listedFields rest

end

/-- A value by itself: a string without quotes, all else as it is listed. -/
def toText : Json → String
  | .str s => s
  | v => v.listed

end ParcelRecords.Json
