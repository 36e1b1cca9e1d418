import ParcelRecords.Delimited.Basic
import ParcelRecords.Json.Text
import ParcelRecords.Record.Basic

/-!
# Sheets

A flat record as two rows of cells, its names over its values, and as tab-separated text to paste.

## Main definitions

* `Sheet.cellText` is what a cell shows of a value.
* `Sheet.rows` gives the row of names and the row of values.
* `Sheet.toTsv` is the text of both rows, or of the values alone.
-/

namespace ParcelRecords.Sheet

/-- Items with commas between them. -/
def commaJoined : List String → String
  | [] => ""
  | [item] => item
  | item :: rest => item ++ "," ++ commaJoined rest

mutual

/-- What a cell shows of a value: nothing for null, the items of a list with commas between them. -/
def cellText : Json → String
  | .null => ""
  | .bool true => "true"
  | .bool false => "false"
  | .arr items => commaJoined (cellTexts items)
  | value => value.toText

/-- What cells show of values. -/
def cellTexts : List Json → List String
  | [] => []
  | value :: rest => cellText value :: cellTexts rest

end

/-- The names of a record in order. -/
def headers (flat : Record) : List String :=
  flat.keys

/-- The values of a record, as cells show them. -/
def values (flat : Record) : List String :=
  flat.values.map cellText

/-- The row of names and the row of values. -/
def rows (flat : Record) : List (List String) :=
  [headers flat, values flat]

/-- The text without one line feed at its end. -/
def dropFinalBreak (cs : List Char) : List Char :=
  if cs.getLast? = some '\n' then cs.dropLast else cs

/-- The record as tab-separated text, with or without the row of names. -/
def toTsv (withHeaders : Bool) (flat : Record) : String :=
  String.ofList (dropFinalBreak (Delimited.encode .tabs
    (if withHeaders then rows flat else [values flat])).toList)

end ParcelRecords.Sheet
