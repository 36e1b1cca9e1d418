import ParcelRecords.Entry.Problem
import ParcelRecords.Text.Integer
import ParcelRecords.Text.Lower

/-!
# Reading raw entries

Checks a raw entry and turns it into its settings. A key may be written in either of two spellings,
unknown keys are passed over, and missing ones take their defaults.

## Main definitions

* `Entry.read` checks an entry, `Entry.readRowFilter` the row filter inside it.
* `readInteger`, `readBoolean`, `readScalar`, `readIdentifier` and the like check single values.
-/

namespace ParcelRecords.Entry

open Checked (fault)

/-! ## Single values -/

/-- A string. -/
def readString (path : List String) : Json → Checked String
  | .str s => .accepted s
  | _ => fault path .notString

/-- The greatest length of a text read as an integer. -/
def maxIntegerText : Nat := 4300

/-- An integer, also as a number without fraction, a truth value or a text. -/
def readInteger (path : List String) : Json → Checked Int
  | .int i => .accepted i
  | .bool b => .accepted (if b then 1 else 0)
  | .float x =>
    if x.isFinite then
      match x.toInt? with
      | some i => .accepted i
      | none => fault path .hasFraction
    else fault path .notFinite
  | .str s =>
    if maxIntegerText < s.utf8ByteSize then fault path .integerTextTooLong
    else
      match Text.integer? s with
      | some i => .accepted i
      | none => fault path .noIntegerText
  | _ => fault path .notInteger

/-- The words that stand for a truth value. -/
def booleanWord? (s : String) : Option Bool :=
  let w := Text.lowerAscii s
  if w ∈ ["0", "off", "f", "false", "n", "no"] then some false
  else if w ∈ ["1", "on", "t", "true", "y", "yes"] then some true
  else none

/-- The truth value that an integer stands for. -/
def booleanInt? (i : Int) : Option Bool :=
  if i = 0 then some false else if i = 1 then some true else none

/-- A truth value, also as one of the numbers 0 and 1 or as a word. -/
def readBoolean (path : List String) : Json → Checked Bool
  | .bool b => .accepted b
  | .int i =>
    match booleanInt? i with
    | some b => .accepted b
    | none => fault path .unclearBoolean
  | .float x =>
    match x.toInt?.bind booleanInt? with
    | some b => .accepted b
    | none => fault path .notBoolean
  | .str s =>
    match booleanWord? s with
    | some b => .accepted b
    | none => fault path .unclearBoolean
  | _ => fault path .notBoolean

/-- A text or a number; a truth value counts as 1 or 0. -/
def readScalar (path : List String) : Json → Checked Scalar
  | .str s => .accepted (.text s)
  | .int i => .accepted (.int i)
  | .float x => .accepted (.float x)
  | .bool b => .accepted (.int (if b then 1 else 0))
  | _ => .refused
    [⟨path ++ ["str"], .notString⟩, ⟨path ++ ["int"], .notInteger⟩, ⟨path ++ ["float"], .notNumber⟩]

/-- A position or a label. -/
def readIdentifier (path : List String) : Json → Checked Identifier
  | .str s => .accepted (.label s)
  | value =>
    match readInteger (path ++ ["int"]) value with
    | .accepted i => .accepted (.index i)
    | .refused ps => .refused (ps ++ [⟨path ++ ["str"], .notString⟩])

/-- A name of a shape, blanks around it and letter case aside. -/
def readShape (path : List String) : Json → Checked Shape
  | .str s =>
    match Shape.ofName? (Text.lower (Text.trim s)) with
    | some shape => .accepted shape
    | none => fault path .notShape
  | _ => fault path .notShape

/-- A name of a method, blanks around it and letter case aside. -/
def readMethod (path : List String) : Json → Checked Method
  | .str s =>
    match Method.ofName? (Text.lower (Text.trim s)) with
    | some m => .accepted m
    | none => fault path .notMethod
  | _ => fault path .notMethod

/-! ## Composed values -/

/-- A list whose members pass a check. -/
def readList {α : Type} (check : List String → Json → Checked α) (path : List String) :
    Json → Checked (List α)
  | .arr items => Checked.list check path 0 items
  | _ => fault path .notList

/-- An object whose values pass a check. -/
def readObject {α : Type} (check : List String → Json → Checked α) (path : List String)
    (value : Json) : Checked (OrderedMap α) :=
  match value.fields? with
  | some fields => (Checked.fields check path fields.entries).map .ofList
  | none => fault path .notObject

/-- A value that passes a check, or null. -/
def readNullable {α : Type} (check : List String → Json → Checked α) (path : List String) :
    Json → Checked (Option α)
  | .null => .accepted none
  | value => (check path value).map some

/-- A value of any sort. -/
def readAny (_ : List String) (value : Json) : Checked Json :=
  .accepted value

/-! ## Keys -/

/-- The two spellings of a key. -/
structure Key where
  camel : String
  snake : String

/-- The spelling that an object uses, with its value; the first spelling goes before the second. -/
def Key.find? (key : Key) (fields : OrderedMap Json) : Option (String × Json) :=
  match fields.get? key.camel with
  | some value => some (key.camel, value)
  | none => (fields.get? key.snake).map fun value => (key.snake, value)

/-- Checks the value of a key; a missing key takes the default. -/
def readKey {α : Type} (fields : OrderedMap Json) (path : List String) (key : Key) (default : α)
    (check : List String → Json → Checked α) : Checked α :=
  match key.find? fields with
  | some (spelling, value) => check (path ++ [spelling]) value
  | none => .accepted default

namespace Key

def tableSelector : Key := ⟨"tableSelector", "table_selector"⟩
def tableData : Key := ⟨"tableData", "table_data"⟩
def tableType : Key := ⟨"tableType", "table_type"⟩
def tableSelectors : Key := ⟨"tableSelectors", "table_selectors"⟩
def formdata : Key := ⟨"formdata", "formdata"⟩
def ignoreRows : Key := ⟨"ignoreRows", "ignore_rows"⟩
def constants : Key := ⟨"constants", "constants"⟩
def method : Key := ⟨"function", "function"⟩
def rowIdentifier : Key := ⟨"rowIdentifier", "row_identifier"⟩
def columnIdentifier : Key := ⟨"columnIdentifier", "column_identifier"⟩
def cellSelector : Key := ⟨"cellSelector", "cell_selector"⟩
def values : Key := ⟨"values", "values"⟩
def columns : Key := ⟨"columns", "columns"⟩
def caseSensitive : Key := ⟨"caseSensitive", "case_sensitive"⟩
def indices : Key := ⟨"indices", "indices"⟩

end Key

/-! ## Entries -/

/-- A row filter. -/
def readRowFilter (path : List String) (value : Json) : Checked RowFilter :=
  match value.fields? with
  | none => fault path .notRowFilter
  | some fields =>
    RowFilter.mk
      <$> readKey fields path .values [] (readList readScalar)
      <*> readKey fields path .columns [] (readList readInteger)
      <*> readKey fields path .caseSensitive false readBoolean
      <*> readKey fields path .indices [] (readList readInteger)

/-- **Reading an entry**: its settings, or all its problems in the order of the settings. -/
def read (value : Json) : Checked Entry :=
  match value.fields? with
  | none => fault [] .notEntry
  | some fields =>
    Entry.mk
      <$> readKey fields [] .tableSelector none (readNullable readString)
      <*> readKey fields [] .tableData none (readNullable (readList readScalar))
      <*> readKey fields [] .tableType none (readNullable readShape)
      <*> readKey fields [] .tableSelectors none (readNullable (readObject readString))
      <*> readKey fields [] .formdata none (readNullable (readObject readString))
      <*> readKey fields [] .ignoreRows none (readNullable readRowFilter)
      <*> readKey fields [] .constants none (readNullable (readObject readAny))
      <*> readKey fields [] .method .allData readMethod
      <*> readKey fields [] .rowIdentifier none (readNullable readIdentifier)
      <*> readKey fields [] .columnIdentifier none (readNullable readIdentifier)
      <*> readKey fields [] .cellSelector none (readNullable readString)

end ParcelRecords.Entry
