import ParcelRecords.Table.Basic
import ParcelRecords.Text.Blank
import ParcelRecords.Text.Lower

/-!
# Leaving rows out

Which rows of a table a filter keeps. Positions are those in the table as it stands; values are
compared with whole cells, blank runs collapsed.

## Main definitions

* `RowFilter.dropsAt` and `RowFilter.dropsCells` tell why a row is left out.
* `RowFilter.keep` lists the rows that are kept.
-/

namespace ParcelRecords.RowFilter

/-- A text as the filter compares it. -/
def seen (filter : RowFilter) (text : String) : String :=
  if filter.caseSensitive then text else Text.lower text

/-- The texts that leave a row out. -/
def targets (filter : RowFilter) : List String :=
  filter.values.map fun value => filter.seen value.toText

/-- Whether a cell has one of the values. -/
def matchesCell (filter : RowFilter) (cell : String) : Bool :=
  filter.seen (Text.normalize cell) ∈ filter.targets

/-- Whether a row is left out for what it holds: a cell in one of the columns has one of the values.
-/
def dropsCells (filter : RowFilter) (cells : List String) : Bool :=
  filter.columns.any fun column => (itemAt? cells column).any filter.matchesCell

/-- Whether a row is left out for its position. -/
def dropsAt (filter : RowFilter) (position : Nat) : Bool :=
  (position : Int) ∈ filter.indices

/-- The rows kept, the first of them at a position. -/
def keepFrom (filter : RowFilter) (position : Nat) : List (List String) → List (List String)
  | [] => []
  | cells :: rest =>
    if filter.dropsAt position || filter.dropsCells cells then filter.keepFrom (position + 1) rest
    else cells :: filter.keepFrom (position + 1) rest

/-- **The rows kept**, in order. -/
def keep (filter : RowFilter) (rows : List (List String)) : List (List String) :=
  filter.keepFrom 0 rows

end ParcelRecords.RowFilter
