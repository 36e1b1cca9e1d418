import ParcelRecords.Entry.Basic

/-!
# Shortfalls of entries

What a valid entry lacks for its method, found without a page. Two of the shortfalls are advice
only: the entry still runs.

## Main definitions

* `Shortfall` is one lack; `Shortfall.isAdvice` tells advice from lacks that make the entry fail.
* `Entry.shortfalls` lists the lacks of an entry.
-/

namespace ParcelRecords

/-- What an entry lacks. -/
inductive Shortfall where
  /-- No shape is declared. -/
  | shape
  /-- A table is read, but none is named. -/
  | table (m : Method)
  | rowIdentifier (m : Method)
  | columnIdentifier (m : Method)
  | tableSelectors
  | cellSelector
  | formdata
deriving DecidableEq

namespace Shortfall

/-- A lack that does not keep the entry from running. -/
def isAdvice : Shortfall → Bool
  | .shape | .table _ => true
  | _ => false

/-- The wording of a lack. -/
def message : Shortfall → String
  | .shape => "tableType is missing (defaults to vertical)"
  | .table m => m.name ++ " needs tableSelector or tableData"
  | .rowIdentifier m => m.name ++ " needs rowIdentifier"
  | .columnIdentifier m => m.name ++ " needs columnIdentifier"
  | .tableSelectors => "getbyselectors needs tableSelectors"
  | .cellSelector => "getcellselector needs cellSelector"
  | .formdata => "getformdata needs formdata"

end Shortfall

namespace Entry

/-- Whether a setting is missing or empty. -/
def blankText (s : Option String) : Bool :=
  s.getD "" = ""

/-- Whether a setting is missing or empty. -/
def blankMap (m : Option (OrderedMap String)) : Bool :=
  (m.getD .empty).isEmpty

/-- Whether neither a selector nor texts name a table. -/
def namesNoTable (e : Entry) : Bool :=
  blankText e.tableSelector && (e.tableData.getD []).isEmpty

/-- What the entry lacks for its method. -/
def shortfalls (e : Entry) : List Shortfall :=
  let m := e.method
  (if e.tableType.isNone && m.readsTable then [.shape] else []) ++
  (if m.readsTable && e.namesNoTable then [.table m] else []) ++
  (if (m = .row ∨ m = .cell) ∧ e.rowIdentifier.isNone then [.rowIdentifier m] else []) ++
  (if (m = .column ∨ m = .cell) ∧ e.columnIdentifier.isNone then [.columnIdentifier m] else []) ++
  (if m = .bySelectors ∧ blankMap e.tableSelectors then [.tableSelectors] else []) ++
  (if m = .cellSelector ∧ blankText e.cellSelector then [.cellSelector] else []) ++
  (if m = .formData ∧ blankMap e.formdata then [.formdata] else [])

end Entry

end ParcelRecords
