import ParcelRecords.Proofs.Table.Missing
import ParcelRecords.Proofs.Table.Texts

/-!
# Rows and columns are views of the cells

Rows, columns and single cells are read in ways of their own: a row is a part of the list of its
cells, a column takes one cell from each row, and a cell is looked for on both axes. Still they show
one grid. What stands at a place of a row or a column is what is read at that place of the grid, the
labels at the beginning counted. A row shows only the cells it has; a column shows an empty text for
every row that does not reach it. A label is no more than a name of the first position that it
stands at.

## Main results

* `Grid.getElem?_of_rowTexts?`, `Grid.length_of_rowTexts?`: a row and its cells
* `Grid.getElem?_of_columnTexts?`, `Grid.length_of_columnTexts?`: a column and its cells
* `Grid.rowTexts?_label`, `Grid.columnTexts?_label`: reads by label
* `Grid.reads_show_one_grid`: all of them together
-/

namespace ParcelRecords

open Markup (Element)

namespace Grid

variable {g : Grid}

/-! ## Rows -/

section Row

variable {row : Int} {texts : List String} (h : g.rowTexts? (.index row) = some texts)
include h

theorem exists_of_rowTexts? : ∃ cells, itemAt? g.rows row = some cells ∧
    texts = (cells.drop g.rowStart).map Text.trim := by
  rw [rowTexts?_of_resolve (i := row) rfl] at h
  obtain ⟨cells, hcells, htexts⟩ := Option.map_eq_some_iff.1 h
  exact ⟨cells, hcells, htexts.symm⟩

/-- **A place in a row** shows the cell there, the label of the row counted. -/
theorem getElem?_of_rowTexts? (k : Nat) :
    texts[k]? = g.cellAt? row ((k + g.rowStart : Nat) : Int) := by
  obtain ⟨cells, hcells, rfl⟩ := exists_of_rowTexts? h
  rw [cellAt?, hcells, Option.bind_some, itemAt?_natCast, List.getElem?_map, List.getElem?_drop,
    Nat.add_comm]

theorem length_of_rowTexts? {cells : List String} (hcells : itemAt? g.rows row = some cells) :
    texts.length = cells.length - g.rowStart := by
  obtain ⟨cells', hcells', rfl⟩ := exists_of_rowTexts? h
  rw [hcells] at hcells'
  cases hcells'
  rw [List.length_map, List.length_drop]

end Row

/-! ## Columns -/

section Column

variable {column : Int} (hcolumn : 0 ≤ column) {texts : List String}
  (h : g.columnTexts? (.index column) = some texts)
include hcolumn h

theorem length_of_columnTexts? : texts.length = g.rows.length - g.columnStart := by
  rw [columnTexts?_of_resolve (i := column) rfl hcolumn] at h
  cases h
  rw [List.length_map, List.length_drop]

/-- **A place in a column** shows the cell there, the label of the column counted; it is empty where
the row does not reach the column. -/
theorem getElem?_of_columnTexts? {k : Nat} (hk : k < texts.length) :
    texts[k]? = some ((g.cellAt? ((k + g.columnStart : Nat) : Int) column).getD "") := by
  have hlength := length_of_columnTexts? hcolumn h
  rw [columnTexts?_of_resolve (i := column) rfl hcolumn] at h
  cases h
  obtain ⟨cells, hcells⟩ : ∃ cells, g.rows[k + g.columnStart]? = some cells :=
    ⟨_, List.getElem?_eq_getElem (by omega)⟩
  have hitem : itemAt? cells column = cells[column.toNat]? := if_neg (by omega)
  rw [List.getElem?_map, List.getElem?_drop, Nat.add_comm, hcells, cellAt?, itemAt?_natCast, hcells,
    Option.bind_some, hitem, Option.map_some]
  cases cells[column.toNat]? with
  | some cell => rfl
  | none => rfl

end Column

theorem columnTexts?_of_neg {column : Int} (h : column < 0) :
    g.columnTexts? (.index column) = none :=
  if_pos h

/-! ## Labels -/

/-- **A row under a label** is the one at the position of the label. -/
theorem rowTexts?_label (text : String) : g.rowTexts? (.label text) =
    (g.indexOf? .row text).bind fun i => g.rowTexts? (.index i) := by
  cases hi : g.indexOf? .row text with
  | none =>
    apply rowTexts?_of_unresolved
    rw [resolve?_label, hi]
    rfl
  | some i =>
    rw [rowTexts?_of_resolve (i := i) (by rw [resolve?_label, hi]; rfl), Option.bind_some,
      rowTexts?_of_resolve (i := i) rfl]

/-- **A column under a label** is the one at the position of the label. -/
theorem columnTexts?_label (text : String) : g.columnTexts? (.label text) =
    (g.indexOf? .column text).bind fun i => g.columnTexts? (.index i) := by
  cases hi : g.indexOf? .column text with
  | none =>
    rw [columnTexts?, resolve?_label, hi]
    rfl
  | some i =>
    have hnonneg : (0 : Int) ≤ i := by omega
    rw [columnTexts?_of_resolve (i := i) (by rw [resolve?_label, hi]; rfl) hnonneg,
      Option.bind_some, columnTexts?_of_resolve (i := i) rfl hnonneg]

/-! ## One grid -/

/-- **Rows, columns and cells are reads of one grid**, whatever the table, its shape and the filter.
At a position that is none of a row no row is read. A row shows, place by place, the cells of the
grid at its position, in a matrix from the second one on, and as many as it has. A column that some
row reaches shows the cells of the grid at its position, in a table of records from the second row
on, one for each row; a text in it is empty exactly where the grid has no cell or an empty one.
Before the first position no column is read. Under a label that is read which is at the position of
the label, and nothing if it has none. -/
theorem reads_show_one_grid (table : Element) (shape : Shape) (filter : RowFilter) :
    let g := ofTable? (some table) shape filter
    let rowStart := if shape = .matrix then 1 else 0
    let columnStart := if shape = .vertical then 1 else 0
    (∀ row : Int, g.rowTexts? (.index row) = none ↔ ¬(0 ≤ row ∧ row < g.rows.length)) ∧
    (∀ row cells, itemAt? g.rows row = some cells →
      ∃ texts, g.rowTexts? (.index row) = some texts ∧ texts.length = cells.length - rowStart ∧
        ∀ k : Nat, texts[k]? = g.cellAt? row ((k + rowStart : Nat) : Int)) ∧
    (∀ column : Int, g.HasColumn (.index column) →
      ∃ texts, g.columnTexts? (.index column) = some texts ∧
        texts.length = g.rows.length - columnStart ∧
        ∀ k < texts.length,
          texts[k]? = some ((g.cellAt? ((k + columnStart : Nat) : Int) column).getD "") ∧
          (texts[k]? = some "" ↔ g.cellAt? ((k + columnStart : Nat) : Int) column = none ∨
            g.cellAt? ((k + columnStart : Nat) : Int) column = some "")) ∧
    (∀ column : Int, column < 0 → g.columnTexts? (.index column) = none) ∧
    ∀ text,
      (g.rowTexts? (.label text) = (g.indexOf? .row text).bind fun i => g.rowTexts? (.index i)) ∧
      g.columnTexts? (.label text) =
        (g.indexOf? .column text).bind fun i => g.columnTexts? (.index i) := by
  intro g rowStart columnStart
  refine ⟨fun row => rowTexts?_eq_none_iff, ?row, ?column,
    fun column hneg => columnTexts?_of_neg hneg,
    fun text => ⟨rowTexts?_label text, columnTexts?_label text⟩⟩
  case row =>
    intro row cells hcells
    have hread : g.rowTexts? (.index row) = some ((cells.drop g.rowStart).map Text.trim) := by
      rw [rowTexts?_of_resolve (i := row) rfl, hcells, Option.map_some]
    exact ⟨_, hread, length_of_rowTexts? hread hcells, getElem?_of_rowTexts? hread⟩
  case column =>
    intro column hcolumn
    obtain ⟨hnonneg, -⟩ := hcolumn
    have hresolve : g.resolve? .column (.index column) = some column := rfl
    have hread := columnTexts?_of_resolve hresolve hnonneg
    refine ⟨_, hread, length_of_columnTexts? hnonneg hread, ?_⟩
    intro k hk
    have hplace := getElem?_of_columnTexts? hnonneg hread hk
    refine ⟨hplace, ?_⟩
    rw [hplace, Option.some_inj, Option.getD_eq_iff]
    -- the text in place of a cell is empty
    simp only [and_true, or_comm]
    rfl

/-- In a table of records the second column has a text for a record that ends before it. -/
theorem reads_show_one_grid_ragged :
    let table := Element.ofTexts [["Year", "Land"], ["2020"], ["2021", " 7 "]]
    let g := ofTable? (some table) .vertical {}
    g.HasColumn (.index 1) ∧ itemAt? g.rows 1 = some ["2020"] ∧
      (∃ texts, g.columnTexts? (.index 1) = some texts ∧ texts.length = 2 ∧
        texts[0]? = some "" ∧ texts[1]? = some "7") ∧
      (∃ texts, g.rowTexts? (.index 1) = some texts ∧ texts.length = 1 ∧
        texts[0]? = some "2020") ∧
      g.columnTexts? (.index (-1)) = none := by
  intro table g
  obtain ⟨-, hrows, hcolumns, hneg, -⟩ := reads_show_one_grid table .vertical {}
  have hhas : g.HasColumn (.index 1) := ⟨by decide, ["2021", " 7 "], by decide, by decide⟩
  have hcells : itemAt? g.rows 1 = some ["2020"] := by decide
  obtain ⟨column, hcolumn, hheight, hcolumnPlaces⟩ := hcolumns 1 hhas
  obtain ⟨row, hrow, hwidth, hrowPlaces⟩ := hrows 1 _ hcells
  -- the second column is two rows high, below its label
  have htwo : column.length = 2 := hheight
  exact ⟨hhas, hcells,
    ⟨column, hcolumn, htwo, (hcolumnPlaces 0 (by omega)).1, (hcolumnPlaces 1 (by omega)).1⟩,
    ⟨row, hrow, hwidth, hrowPlaces 0⟩, hneg (-1) (by decide)⟩

end Grid

end ParcelRecords
