import Mathlib.Data.Option.Basic
import ParcelRecords.Extraction.Basic
import ParcelRecords.Proofs.Table.Reads

/-!
# Reads of what is not there

A read of a grid finds nothing where there is nothing to find: no row at the position or under the
label, or no table at all. One read is more generous. A column named by its position is taken to
be there wherever the position is, and a row that does not reach it gives an empty text; so beyond
all rows the column is read as a list of empty texts, and as an empty list if there is no table.

## Main definitions

* `Grid.HasRow`, `Grid.HasColumn`: an identifier names a row, or a column that some row reaches
* `Identifier.isPosition`: an identifier is a position that can be counted

## Main results

* `Grid.rowTexts?_eq_none_iff`: when a row is not read
* `Grid.columnTexts?_of_not_hasColumn`: what is read of a column that is not there
* `Grid.missing_reads`: all reads of what is not there, and the entries that make them
-/

namespace ParcelRecords

open Markup (Document)

/-- Whether an identifier is a position counted from zero. -/
def Identifier.isPosition : Identifier → Bool
  | .index i => 0 ≤ i
  | .label _ => false

namespace Grid

variable {g : Grid}

/-! ## Rows -/

/-- An identifier names one of the rows: by its position, or by a label beside it. -/
def HasRow (g : Grid) : Identifier → Prop
  | .index i => 0 ≤ i ∧ i < g.rows.length
  | .label text => g.HasLabel .row text

/-- **A row is not read** exactly if the identifier names none of the rows. -/
theorem rowTexts?_eq_none_iff {row : Identifier} : g.rowTexts? row = none ↔ ¬g.HasRow row := by
  cases row with
  | index i =>
    rw [rowTexts?_of_resolve (i := i) rfl, Option.map_eq_none_iff, itemAt?_eq_none_iff]
    rfl
  | label text =>
    constructor
    · intro hnone hlabel
      obtain ⟨i, hi⟩ := Option.ne_none_iff_exists'.1 (mt indexOf?_eq_none_iff.1 (not_not.2 hlabel))
      have hresolve : g.resolve? .row (.label text) = some (i : Int) := by
        rw [resolve?_label, hi]
        rfl
      -- a label is found beside a row, and that row is read
      have hlt := indexOf?_row_lt hi
      rw [rowTexts?_of_resolve hresolve, itemAt?_natCast, List.getElem?_eq_getElem hlt] at hnone
      cases hnone
    · intro hlabel
      refine rowTexts?_of_unresolved ?_
      rw [resolve?_label, indexOf?_eq_none_iff.2 hlabel]
      rfl

/-! ## Columns -/

/-- An identifier names a column that at least one row reaches: by its position, or by a label above
it. -/
def HasColumn (g : Grid) : Identifier → Prop
  | .index i => 0 ≤ i ∧ ∃ cells ∈ g.rows, i < cells.length
  | .label text => g.HasLabel .column text

/-- **A column that is not there** is read as nothing under a label and before the first position.
At any other position it is read as one empty text for every row. -/
theorem columnTexts?_of_not_hasColumn {column : Identifier} (h : ¬g.HasColumn column) :
    g.columnTexts? column =
      if column.isPosition then some (List.replicate (g.rows.length - g.columnStart) "")
      else none := by
  cases column with
  | label text =>
    have hnone : g.indexOf? .column text = none := indexOf?_eq_none_iff.2 h
    simp [columnTexts?, resolve?_label, hnone, Identifier.isPosition]
  | index i =>
    by_cases hi : 0 ≤ i
    · -- no row reaches the position, so each one gives the text of no cell
      have hempty : ∀ cells ∈ g.rows.drop g.columnStart,
          Text.trim ((cells[i.toNat]?).getD "") = "" := by
        intro cells hmem
        have hshort : cells.length ≤ i.toNat := by
          by_contra hlong
          exact h ⟨hi, cells, List.mem_of_mem_drop hmem, by omega⟩
        rw [List.getElem?_eq_none hshort]
        rfl
      rw [columnTexts?_of_resolve (i := i) rfl hi, List.map_congr_left hempty, List.map_const',
        List.length_drop]
      simp [Identifier.isPosition, hi]
    · have hneg : i < 0 := by omega
      simp [columnTexts?, resolve?, Identifier.isPosition, hi, hneg]

/-! ## Tables that are not there -/

section NoTable

variable (shape : Shape) (filter : RowFilter)

theorem rows_ofTable?_none : (ofTable? none shape filter).rows = [] := rfl

theorem not_hasLabel_ofTable?_none (axis : Axis) (text : String) :
    ¬(ofTable? none shape filter).HasLabel axis text := by
  rintro ⟨label, hmem, -⟩
  cases axis <;> cases hmem

theorem not_hasRow_ofTable?_none (row : Identifier) :
    ¬(ofTable? none shape filter).HasRow row := by
  cases row with
  | index i =>
    rintro ⟨hnonneg, hlt⟩
    rw [rows_ofTable?_none, List.length_nil] at hlt
    omega
  | label text => exact not_hasLabel_ofTable?_none shape filter .row text

theorem not_hasColumn_ofTable?_none (column : Identifier) :
    ¬(ofTable? none shape filter).HasColumn column := by
  cases column with
  | index i =>
    rintro ⟨-, cells, hmem, -⟩
    cases hmem
  | label text => exact not_hasLabel_ofTable?_none shape filter .column text

theorem cellAt?_ofTable?_none (row column : Int) :
    (ofTable? none shape filter).cellAt? row column = none := by
  have hitem : itemAt? (ofTable? none shape filter).rows row = none := by
    rw [itemAt?_eq_none_iff, rows_ofTable?_none, List.length_nil]
    omega
  rw [cellAt?, hitem]
  rfl

/-- **A column of a table that is not there** is read as a list of no texts at a position, and as
nothing otherwise. -/
theorem columnTexts?_ofTable?_none (column : Identifier) :
    (ofTable? none shape filter).columnTexts? column =
      if column.isPosition then some [] else none := by
  rw [columnTexts?_of_not_hasColumn (not_hasColumn_ofTable?_none shape filter column),
    rows_ofTable?_none, List.length_nil, Nat.zero_sub]
  rfl

end NoTable

/-- The grid of an entry whose table is not on the page. -/
theorem grid_of_table?_eq_none {e : Entry} {d : Document}
    (h : d.table? e.tableSelector e.requiredTexts = none) :
    e.grid d = ofTable? none e.shape (e.ignoreRows.getD {}) := by
  rw [Entry.grid, h]
  rfl

/-- **Reads of what is not there**. Without a table no cell, row, label or value is found, whatever
the shape and the filter. On a table a row is not read exactly if the identifier names none. A
column that no row reaches, on a table or without one, is not read exactly if the identifier is no
position; at a position it is read as empty texts, one for every row below the labels. So an entry
that reads a row or a cell of a table that is not there writes null, and so does an entry that reads
a column, unless the column is named by its position. -/
theorem missing_reads (shape : Shape) (filter : RowFilter) :
    (∀ row column, (ofTable? none shape filter).cellAt? row column = none) ∧
    (∀ first second, (ofTable? none shape filter).cellByLabel? first second = none) ∧
    (∀ axis text, (ofTable? none shape filter).indexOf? axis text = none) ∧
    (∀ row, (ofTable? none shape filter).rowTexts? row = none) ∧
    (ofTable? none shape filter).allData? = none ∧
    (∀ table row, (ofTable? (some table) shape filter).rowTexts? row = none ↔
      ¬(ofTable? (some table) shape filter).HasRow row) ∧
    (∀ table? column, ¬(ofTable? table? shape filter).HasColumn column →
      (ofTable? table? shape filter).columnTexts? column =
        if column.isPosition then
          some (List.replicate ((ofTable? table? shape filter).rows.length -
            (ofTable? table? shape filter).columnStart) "")
        else none) ∧
    (∀ column, ¬(ofTable? none shape filter).HasColumn column) ∧
    ∀ (e : Entry) (d : Document), d.table? e.tableSelector e.requiredTexts = none →
      (∀ row, e.method = .row → e.rowIdentifier = some row → e.run d = .ok [("rowData", .null)]) ∧
      (∀ row column, e.method = .cell → e.rowIdentifier = some row →
        e.columnIdentifier = some column → e.run d = .ok [("cellValue", .null)]) ∧
      (∀ column, e.method = .column → e.columnIdentifier = some column →
        e.run d = .ok [("columnData", if column.isPosition then .arr [] else .null)]) := by
  refine ⟨cellAt?_ofTable?_none shape filter, fun _ _ => rfl, fun axis text => ?_, fun row => ?_,
    rfl, fun table row => rowTexts?_eq_none_iff, fun table? column h => ?_,
    not_hasColumn_ofTable?_none shape filter, fun e d hnone => ?_⟩
  · exact indexOf?_eq_none_iff.2 (not_hasLabel_ofTable?_none shape filter axis text)
  · exact rowTexts?_eq_none_iff.2 (not_hasRow_ofTable?_none shape filter row)
  · exact columnTexts?_of_not_hasColumn h
  · -- every read of the entry is one on the grid of no table
    have hgrid := grid_of_table?_eq_none hnone
    refine ⟨fun row hmethod hrow => ?_, fun row column hmethod hrow hcolumn => ?_,
      fun column hmethod hcolumn => ?_⟩
    · have hread := rowTexts?_eq_none_iff.2
        (not_hasRow_ofTable?_none e.shape (e.ignoreRows.getD {}) row)
      simp only [Entry.run, hmethod, hrow, hgrid, hread]
      rfl
    · have hread : (ofTable? none e.shape (e.ignoreRows.getD {})).cellByLabel? row (some column) =
          none := rfl
      simp only [Entry.run, hmethod, hrow, hcolumn, hgrid, hread]
      rfl
    · simp only [Entry.run, hmethod, hcolumn, hgrid, columnTexts?_ofTable?_none]
      cases column.isPosition <;> rfl

/-- A table of one cell has no second column, and is read as if it had an empty one; a column under a
label that no table has is null. -/
theorem missing_reads_second_column :
    let table : Markup.Element := ⟨⟨"table", .empty⟩,
      [.element ⟨"tr", .empty⟩ [.element ⟨"td", .empty⟩ [.text .ordinary "Year"]]]⟩
    let g := ofTable? (some table) .horizontal {}
    let e : Entry := { method := .column, columnIdentifier := some (.label "Land") }
    ¬g.HasColumn (.index 1) ∧ g.columnTexts? (.index 1) = some [""] ∧
      (⟨[]⟩ : Document).table? e.tableSelector e.requiredTexts = none ∧
      e.run ⟨[]⟩ = .ok [("columnData", .null)] := by
  intro table g e
  obtain ⟨-, -, -, -, -, -, hcolumn, -, hentry⟩ := missing_reads .horizontal {}
  have hnot : ¬g.HasColumn (.index 1) := by
    rintro ⟨-, cells, hmem, hlt⟩
    obtain rfl : cells = ["Year"] := List.mem_singleton.1 hmem
    exact absurd hlt (by decide)
  have hnone : (⟨[]⟩ : Document).table? e.tableSelector e.requiredTexts = none := rfl
  exact ⟨hnot, hcolumn (some table) (.index 1) hnot, hnone, (hentry e ⟨[]⟩ hnone).2.2 _ rfl rfl⟩

/-- **A column of no table**: named by its position it is read as an empty list, where every other
read of a table that is not there is none. -/
theorem columnTexts?_position_without_table :
    (ofTable? none .vertical {}).columnTexts? (.index 0) = some [] ∧
    (ofTable? none .vertical {}).rowTexts? (.index 0) = none ∧
    let e : Entry := { method := .column, columnIdentifier := some (.index 0) }
    (⟨[]⟩ : Document).table? e.tableSelector e.requiredTexts = none ∧
      e.run ⟨[]⟩ = .ok [("columnData", .arr [])] :=
  ⟨rfl, rfl, rfl, rfl⟩

end Grid

end ParcelRecords
