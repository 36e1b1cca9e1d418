import ParcelRecords.Entry.Reader
import ParcelRecords.Entry.Shortfall

/-!
# Schemas

A schema is an ordered map from section names to entries, raw or already checked. It can be
inspected without a page.

## Main definitions

* `RawEntry` is an entry before checking, or one already checked.
* `Schema` maps section names to raw entries.
* `Schema.remarks` lists all that is wrong or doubtful in a schema.
-/

namespace ParcelRecords

/-- An entry of a schema: a value to be checked, or settings that were. -/
inductive RawEntry where
  | json (value : Json)
  | ready (entry : Entry)

/-- The settings of a raw entry, or its problems. -/
def RawEntry.read : RawEntry → Checked Entry
  | .json value => Entry.read value
  | .ready entry => .accepted entry

/-- Entries by section name, in order. -/
abbrev Schema := OrderedMap RawEntry

namespace Schema

/-- The schema of the fields of an object. -/
def ofFields (fields : OrderedMap Json) : Schema :=
  .ofList (fields.entries.map fun f => (f.1, .json f.2))

/-- The schema that a value is; only objects are schemas. -/
def ofJson? (value : Json) : Option Schema :=
  value.fields?.map ofFields

/-- The first refused entry's problems, or the schema with all its entries checked. -/
def check (schema : Schema) : Except (List Problem) Schema := do
  let entries ← schema.entries.mapM fun s =>
    match s.2.read with
    | .accepted e => .ok (s.1, RawEntry.ready e)
    | .refused ps => .error ps
  pure (.ofList entries)

/-! ## Remarks -/

/-- One thing wrong or doubtful in an entry. -/
inductive Remark where
  | problem (p : Problem)
  | shortfall (s : Shortfall)

/-- A remark that does not keep the entry from running. -/
def Remark.isAdvice : Remark → Bool
  | .problem _ => false
  | .shortfall s => s.isAdvice

/-- The wording of a remark on a section; a problem of the entry as a whole has a place of its own.
-/
def Remark.message (section_ : String) : Remark → String
  | .problem p =>
    section_ ++ ": " ++ (if p.location = "" then "entry" else p.location) ++ ": " ++ p.fault.message
  | .shortfall s => section_ ++ ": " ++ s.message

/-- What is wrong or doubtful in one entry. -/
def entryRemarks (raw : RawEntry) : List Remark :=
  match raw.read with
  | .accepted e => e.shortfalls.map .shortfall
  | .refused ps => ps.map .problem

/-- What is wrong or doubtful in a schema, section by section. -/
def remarks (schema : Schema) : List String :=
  schema.entries.flatMap fun s => (entryRemarks s.2).map (Remark.message s.1)

end Schema

end ParcelRecords
