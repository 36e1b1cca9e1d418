import ParcelRecords.Binary64.Text

/-!
# How a table is read

The settings that a table read depends on: where the table has its labels, which rows are left out,
and how a row or a column is named.

## Main definitions

* `Shape` tells where a table has its labels.
* `RowFilter` tells which rows are left out.
* `Identifier` names a row or a column by position or by label.
* `Scalar` is a configured value: a text or a number.
-/

namespace ParcelRecords

/-- Where a table has its labels. -/
inductive Shape where
  /-- In the first column, the value beside each. -/
  | horizontal
  /-- In the first row, records below. -/
  | vertical
  /-- In the first row and the first column. -/
  | matrix
deriving DecidableEq

/-- The name of a shape. -/
def Shape.name : Shape → String
  | .horizontal => "horizontal"
  | .vertical => "vertical"
  | .matrix => "matrix"

/-- All shapes. -/
def Shape.all : List Shape := [.horizontal, .vertical, .matrix]

/-- The shape of a name. -/
def Shape.ofName? (name : String) : Option Shape :=
  Shape.all.find? (·.name = name)

/-- A configured value. -/
inductive Scalar where
  | text (s : String)
  | int (i : Int)
  | float (x : Binary64)
deriving DecidableEq

/-- A configured value as text. -/
def Scalar.toText : Scalar → String
  | .text s => s
  | .int i => toString i
  | .float x => x.toText .cell

/-- The name of a row or a column. -/
inductive Identifier where
  | index (i : Int)
  | label (s : String)
deriving DecidableEq

/-- The rows to leave out of a table: those at the given positions, and those that hold one of the
values in one of the columns. -/
structure RowFilter where
  values : List Scalar := []
  columns : List Int := []
  caseSensitive : Bool := false
  indices : List Int := []

/-- The member of a list at a position, counted from zero; there is none before it. -/
def itemAt? {α : Type} (items : List α) (i : Int) : Option α :=
  if i < 0 then none else items[i.toNat]?

end ParcelRecords
