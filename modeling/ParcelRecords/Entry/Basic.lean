import ParcelRecords.Record.Basic
import ParcelRecords.Table.Basic

/-!
# Schema entries

One entry of a site schema: how to find a table or elements of a page, and what to read from them.

## Main definitions

* `Method` names what is read.
* `Entry` holds all settings of an entry.
* `Entry.shape` and `Entry.requiredTexts` are the settings as they take effect.
-/

namespace ParcelRecords

/-- What an entry reads from a page. -/
inductive Method where
  | allData
  | bySelectors
  | row
  | column
  | cell
  | cellSelector
  | formData
  | appraiserPage
deriving DecidableEq

namespace Method

/-- The name of a method in an entry. -/
def name : Method → String
  | .allData => "getalldata"
  | .bySelectors => "getbyselectors"
  | .row => "getrow"
  | .column => "getcolumn"
  | .cell => "getcell"
  | .cellSelector => "getcellselector"
  | .formData => "getformdata"
  | .appraiserPage => "runmiamiexceptions"

/-- All methods. -/
def all : List Method :=
  [.allData, .bySelectors, .row, .column, .cell, .cellSelector, .formData, .appraiserPage]

/-- The method of a name. -/
def ofName? (name : String) : Option Method :=
  all.find? (·.name = name)

/-- Whether the method reads a table; the others look at the page itself. -/
def readsTable : Method → Bool
  | .allData | .row | .column | .cell => true
  | _ => false

end Method

/-- The settings of one entry. -/
structure Entry where
  tableSelector : Option String := none
  tableData : Option (List Scalar) := none
  tableType : Option Shape := none
  tableSelectors : Option (OrderedMap String) := none
  formdata : Option (OrderedMap String) := none
  ignoreRows : Option RowFilter := none
  constants : Option Record := none
  method : Method := .allData
  rowIdentifier : Option Identifier := none
  columnIdentifier : Option Identifier := none
  cellSelector : Option String := none

namespace Entry

/-- The declared shape; an entry without one reads records under a header. -/
def shape (e : Entry) : Shape :=
  e.tableType.getD .vertical

/-- The texts that the table has to contain, if there are any. -/
def requiredTexts (e : Entry) : Option (List String) :=
  match e.tableData with
  | none | some [] => none
  | some items => some (items.map Scalar.toText)

end Entry

end ParcelRecords
