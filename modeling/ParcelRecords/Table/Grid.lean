import ParcelRecords.OrderedMap
import ParcelRecords.Table.Filter

/-!
# Grids

The rows of a table as a grid of cell texts, and the reads on it. Rows may differ in length. A grid
may also stand for a table that is not there; every read then finds nothing.

## Main definitions

* `Grid` is a shape with the rows of a table, if there is one.
* `Grid.cellAt?` reads one cell by its position.
* `Grid.indexOf?` finds a label along an axis.
* `Grid.cellByLabel?`, `Grid.rowTexts?` and `Grid.columnTexts?` read by labels or positions.
* `Grid.allData?` reads the whole table under its labels.
-/

namespace ParcelRecords

/-- The direction of a label: beside the rows or above the columns. -/
inductive Axis where
  | row
  | column
deriving DecidableEq

/-- The cell texts of a table, row by row, and where it has its labels. -/
structure Grid where
  shape : Shape
  table? : Option (List (List String))

namespace Grid

/-- The rows; a table that is not there has none. -/
def rows (g : Grid) : List (List String) :=
  g.table?.getD []

/-- The rows as they are shown, without blanks at the ends of their cells. -/
def shownRows (g : Grid) : List (List String) :=
  g.rows.map (·.map Text.trim)

/-! ## Positions -/

/-- The text of a cell without blanks at its ends. -/
def cellAt? (g : Grid) (row column : Int) : Option String :=
  ((itemAt? g.rows row).bind (itemAt? · column)).map Text.trim

/-- A label as it is compared: without blanks at its ends, in lowercase. -/
def labelKey (text : String) : String :=
  Text.lower (Text.trim text)

/-- The labels along an axis; a row without cells has none. -/
def labels (g : Grid) : Axis → List (Option String)
  | .row => g.rows.map List.head?
  | .column => (g.rows.headD []).map some

/-- The position of the first label along an axis that is equal to the text. -/
def indexOf? (g : Grid) (axis : Axis) (text : String) : Option Nat :=
  (g.labels axis).findIdx? fun label => label.any (labelKey · = labelKey text)

/-- The position that an identifier names. -/
def resolve? (g : Grid) (axis : Axis) : Identifier → Option Int
  | .index i => some i
  | .label text => (g.indexOf? axis text).map Int.ofNat

/-! ## Reads by label -/

/-- One cell by its label. Beside a label the value stands in the second column, under a label in
the second row; a matrix needs a label on both axes. -/
def cellByLabel? (g : Grid) (first : Identifier) (second : Option Identifier) : Option String :=
  if g.table?.isNone then none
  else
    match g.shape with
    | .horizontal => do g.cellAt? (← g.resolve? .row first) 1
    | .vertical => do g.cellAt? 1 (← g.resolve? .column first)
    | .matrix => do
      let second ← second
      g.cellAt? (← g.resolve? .row first) (← g.resolve? .column second)

/-- The number of cells at the beginning of a row that are labels. -/
def rowStart (g : Grid) : Nat :=
  if g.shape = .matrix then 1 else 0

/-- The number of rows at the beginning of a column that are labels. -/
def columnStart (g : Grid) : Nat :=
  if g.shape = .vertical then 1 else 0

/-- The texts of a row, its label left out. -/
def rowTexts? (g : Grid) (row : Identifier) : Option (List String) := do
  let cells ← itemAt? g.rows (← g.resolve? .row row)
  pure ((cells.drop g.rowStart).map Text.trim)

/-- The texts of a column, its label left out; a row that does not reach it has an empty one. -/
def columnTexts? (g : Grid) (column : Identifier) : Option (List String) := do
  let i ← g.resolve? .column column
  if i < 0 then none
  else pure ((g.rows.drop g.columnStart).map fun cells => Text.trim ((cells[i.toNat]?).getD ""))

/-! ## Whole tables -/

/-- The text in place of a cell that a row does not have. -/
def missingCell : String := "N/A"

/-- A cell text with blank runs collapsed. -/
def cellValue (cells : List String) (column : Nat) : String :=
  match cells[column]? with
  | some cell => Text.normalize cell
  | none => missingCell

/-- The values beside the labels of rows. -/
def horizontalEntries (rows : List (List String)) : List (String × String) :=
  rows.filterMap fun
    | label :: value :: _ => some (Text.normalize label, Text.normalize value)
    | _ => none

/-- The values of one record under the labels, each with the number of the record. -/
def recordEntries (labels : List String) (number : Nat) (cells : List String) :
    List (String × String) :=
  labels.mapIdx fun column label => (label ++ "_" ++ toString number, cellValue cells column)

/-- The values of all records under the labels in the first row. -/
def verticalEntries : List (List String) → List (String × String)
  | [] => []
  | header :: records =>
    (records.mapIdx (recordEntries (header.map Text.normalize))).flatten

/-- The values of one row of a matrix, under its label and those of the columns. -/
def matrixRowEntries (labels : List String) (cells : List String) : List (String × String) :=
  let rowLabel := Text.normalize (cells.headD "")
  labels.mapIdx fun column label => (rowLabel ++ "_" ++ label, cellValue cells (column + 1))

/-- The values of a matrix under both labels. -/
def matrixEntries : List (List String) → List (String × String)
  | [] => []
  | header :: rows => rows.flatMap (matrixRowEntries ((header.drop 1).map Text.normalize))

/-- The labelled values of rows, in order. -/
def entries (shape : Shape) (rows : List (List String)) : List (String × String) :=
  match shape with
  | .horizontal => horizontalEntries rows
  | .vertical => verticalEntries rows
  | .matrix => matrixEntries rows

/-- **The whole table** under its labels; of values with the same label the last one stays. -/
def allData? (g : Grid) : Option (OrderedMap String) :=
  g.table?.map fun rows => .ofList (entries g.shape rows)

end Grid

end ParcelRecords
