import ParcelRecords.Appraiser.Page
import ParcelRecords.Form.Control
import ParcelRecords.Markup.Tree
import ParcelRecords.Schema.Basic
import ParcelRecords.Table.Locator

/-!
# Extraction

Runs a schema on a page. The sections are run in order and write into one record, later ones over
earlier ones; a section that fails is noted, and the others still run.

## Main definitions

* `Entry.run` is what one entry reads from a page.
* `Failure` says why a section failed; `Failure.message` words it.
* `Extraction` is the record of a page with the failures.
* `Schema.run` runs a schema.
* `Extraction.ofPage` runs the schema of a site on the text of a page.
-/

namespace ParcelRecords

open Markup (Document Focus)

/-! ## Failures -/

/-- Why a section failed. -/
inductive Failure where
  /-- The entry is invalid; the number of its problems. -/
  | invalid (problems : Nat)
  | needsTableSelectors
  | needsRow
  | needsColumn
  | needsRowAndColumn
  | needsCellSelector
  | needsFormdata
deriving DecidableEq

/-- The wording of a failure. -/
def Failure.message : Failure → String
  | .invalid n => "invalid config: " ++ toString n ++ " validation error(s)"
  | .needsTableSelectors => "tableSelectors is required for getbyselectors"
  | .needsRow => "rowIdentifier is required for getrow"
  | .needsColumn => "columnIdentifier is required for getcolumn"
  | .needsRowAndColumn => "rowIdentifier and columnIdentifier are required for getcell"
  | .needsCellSelector => "cellSelector is required for getcellselector"
  | .needsFormdata => "formdata is required for getformdata"

/-! ## Entries -/

/-- A text, or null where there is none. -/
def textOrNull : Option String → Json
  | some s => .str s
  | none => .null

/-- A list of texts, or null where there is none. -/
def textsOrNull : Option (List String) → Json
  | some texts => .arr (texts.map .str)
  | none => .null

namespace Entry

/-- The text of the first element that meets a selector, blank runs collapsed. -/
def selectedText? (d : Document) (selector : String) : Option String :=
  (d.focus.select? selector).map (·.here.normalText)

/-- The value of the first control that meets a selector. -/
def controlValue (d : Document) (selector : String) : Json :=
  match d.focus.select? selector with
  | some f => (Form.value d f).toJson
  | none => .null

/-- One value for every name of a map that is not empty. -/
def readEach (missing : Failure) (read : String → Json) (m : Option (OrderedMap String)) :
    Except Failure (List (String × Json)) :=
  match (m.getD .empty).entries with
  | [] => .error missing
  | entries => .ok (entries.map fun e => (e.1, read e.2))

/-- The grid of the table that an entry speaks of. -/
def grid (e : Entry) (d : Document) : Grid :=
  Grid.ofTable? ((d.table? e.tableSelector e.requiredTexts).map (·.here)) e.shape
    (e.ignoreRows.getD {})

/-- **What an entry reads** from a page, in order. -/
def run (e : Entry) (d : Document) : Except Failure (List (String × Json)) :=
  match e.method with
  | .allData =>
    .ok (((e.grid d).allData?.getD .empty).entries.map fun v => (v.1, .str v.2))
  | .bySelectors =>
    readEach .needsTableSelectors (fun s => textOrNull (selectedText? d s)) e.tableSelectors
  | .row =>
    match e.rowIdentifier with
    | some row => .ok [("rowData", textsOrNull ((e.grid d).rowTexts? row))]
    | none => .error .needsRow
  | .column =>
    match e.columnIdentifier with
    | some column => .ok [("columnData", textsOrNull ((e.grid d).columnTexts? column))]
    | none => .error .needsColumn
  | .cell =>
    match e.rowIdentifier, e.columnIdentifier with
    | some row, some column =>
      .ok [("cellValue", textOrNull ((e.grid d).cellByLabel? row (some column)))]
    | _, _ => .error .needsRowAndColumn
  | .cellSelector =>
    match e.cellSelector.getD "" with
    | "" => .error .needsCellSelector
    | selector => .ok [("cellValue", textOrNull (selectedText? d selector))]
  | .formData => readEach .needsFormdata (controlValue d) e.formdata
  | .appraiserPage => .ok ((Appraiser.record? d).getD .empty).entries

/-- The constants of an entry. -/
def constantEntries (e : Entry) : List (String × Json) :=
  (e.constants.getD .empty).entries

end Entry

/-! ## Schemas -/

/-- What a schema read from a page: the record, and the sections that failed. -/
structure Extraction where
  data : Record := .empty
  failures : OrderedMap Failure := .empty

namespace Extraction

/-- The record with nested names joined. -/
def flat (x : Extraction) : Record :=
  x.data.flatten ""

/-- Runs one section. Its constants are written first, and stay if it fails after all; an invalid
entry writes nothing. -/
def step (d : Document) (x : Extraction) (name : String) (raw : RawEntry) : Extraction :=
  match raw.read with
  | .refused problems => { x with failures := x.failures.insert name (.invalid problems.length) }
  | .accepted e =>
    let data := x.data.insertAll e.constantEntries
    match e.run d with
    | .ok output => { x with data := data.insertAll output }
    | .error f => { data, failures := x.failures.insert name f }

end Extraction

namespace Schema

/-- **Running a schema** on a page, section by section. -/
def run (schema : Schema) (d : Document) : Extraction :=
  schema.entries.foldl (fun x s => x.step d s.1 s.2) {}

end Schema

/-! ## Pages -/

/-- Why nothing can be extracted from a page. -/
inductive PageError where
  | rejected (r : Markup.Rejection)
  /-- The schema is a value of another sort than an object. -/
  | notSchema

/-- Runs a schema, given as a value, on the text of a page. -/
def Extraction.ofPage (value : Json) (html : String) : Except PageError Extraction :=
  match Document.parse html, Schema.ofJson? value with
  | .error r, _ => .error (.rejected r)
  | .ok _, none => .error .notSchema
  | .ok document, some schema => .ok (schema.run document)

end ParcelRecords
