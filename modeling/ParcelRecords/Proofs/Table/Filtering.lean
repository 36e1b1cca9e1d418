import Mathlib.Data.Fintype.EquivFin
import Mathlib.Data.List.Basic
import ParcelRecords.Proofs.Table.Deletion
import ParcelRecords.Proofs.Table.Texts
import ParcelRecords.Proofs.Text.Lowercase

/-!
# Which rows a filter leaves out

A filter leaves a row out for its position in the table, or for a cell in one of its columns that
has one of its values. Two things decide whether a cell has a value: the form in which the cell is
compared, which is its normal form, and the form in which the value is, which is the value as it
stands. So a value with other blanks than a normal form has is never found, not even in the cell
that it was copied from, and a filter leaves out at most the rows that it would leave out if its
values were taken in normal form too. The two come to the same exactly if every value has its normal
form among the values.

However values are read, a filter is monotone: with more values, columns and positions it leaves out
more rows, and it does if letter case no longer counts.

## Main definitions

* `RowFilter.LeavesOut`: a filter whose values are read in some form leaves a row out
* `Element.rowsWithout`: the rows of a table that a rule does not leave out, with their positions
* `RowFilter.HasNormalValues`: the values of a filter have their normal forms among them
* `RowFilter.Within`: all that is in one filter is in another

## Main results

* `Grid.rows_ofTable?`: the rows of a grid
* `RowFilter.LeavesOut.normalized`: values in normal form leave out more
* `Grid.rows_left_out_exactly`: what a filter leaves out, and when the form of its values matters
* `RowFilter.LeavesOut.mono`, `Grid.wider_filter_keeps_less`: a filter with more in it keeps less
-/

namespace ParcelRecords

open Markup (Element)

/-! ## Rules -/

namespace RowFilter

variable {filter : RowFilter} {reading : String → String} {position : Nat} {cells : List String}

/-- A row is left out by a filter whose values are read in some form: it stands at one of the
positions, or the normal form of a cell in one of the columns is one of the values, letter case
aside unless it counts. -/
def LeavesOut (filter : RowFilter) (reading : String → String) (position : Nat)
    (cells : List String) : Prop :=
  (position : Int) ∈ filter.indices ∨
    ∃ column ∈ filter.columns, ∃ cell ∈ itemAt? cells column, ∃ value ∈ filter.values,
      filter.seen (Text.normalize cell) = filter.seen (reading value.toText)

instance : Decidable (filter.LeavesOut reading position cells) :=
  inferInstanceAs (Decidable (_ ∨ ∃ column ∈ filter.columns, ∃ cell ∈ itemAt? cells column,
    ∃ value ∈ filter.values, _ = _))

/-- **A filter reads its values as they stand**. -/
theorem drops_iff : filter.drops position cells = true ↔ filter.LeavesOut id position cells := by
  rw [drops, Bool.or_eq_true, dropsAt, dropsCells, decide_eq_true_eq, List.any_eq_true]
  -- the two sides go through the columns, the cell there and the values in the same order
  apply or_congr_right
  refine exists_congr fun column => and_congr_right fun _ => ?_
  rw [Option.any_eq_true]
  refine exists_congr fun cell => and_congr_right fun _ => ?_
  rw [matchesCell, targets, decide_eq_true_eq, List.mem_map]
  exact exists_congr fun value => and_congr_right fun _ => eq_comm

/-- Values that are seen alike are seen alike where letter case counts less. -/
theorem seen_congr {other : RowFilter} (hcase : other.caseSensitive = true →
    filter.caseSensitive = true) {s t : String} (h : filter.seen s = filter.seen t) :
    other.seen s = other.seen t := by
  unfold seen at h ⊢
  cases ho : other.caseSensitive with
  | true => simpa [hcase ho] using h
  | false =>
    cases hf : filter.caseSensitive with
    | true =>
      have hst : s = t := by simpa [hf] using h
      rw [hst]
    | false => simpa [hf] using h

/-- What is seen of a normal form is in normal form itself. -/
theorem seen_normalize {s t : String} (h : filter.seen (Text.normalize s) = filter.seen t) :
    filter.seen (Text.normalize t) = filter.seen t := by
  unfold seen at h ⊢
  split
  · rename_i hcase
    rw [if_pos hcase, if_pos hcase] at h
    rw [← h, Text.normalize_normalize]
  · rename_i hcase
    rw [if_neg hcase, if_neg hcase] at h
    rw [← Text.normalize_lower, ← h, Text.normalize_lower, Text.normalize_normalize]

/-- **Values in normal form leave out more**: a value that a cell has is in normal form, as far as
the filter can see. -/
theorem LeavesOut.normalized (h : filter.LeavesOut id position cells) :
    filter.LeavesOut Text.normalize position cells := by
  rcases h with hposition | ⟨column, hcolumn, cell, hcell, value, hvalue, hseen⟩
  · exact .inl hposition
  · exact .inr ⟨column, hcolumn, cell, hcell, value, hvalue,
      hseen.trans (seen_normalize hseen).symm⟩

end RowFilter

/-! ## Rows -/

namespace Markup.Element

/-- The rows of a table that a rule does not leave out, each with its position. -/
def rowsWithout (table : Element) (leaves : Nat → List String → Prop)
    [∀ position cells, Decidable (leaves position cells)] : List (Element × Nat) :=
  table.ownRows.zipIdx.filter fun row => ¬leaves row.2 (row.1.cells.map text)

/-- A rule that leaves out more leaves a part of the rows, in order. -/
theorem rowsWithout_sublist (table : Element) {leaves more : Nat → List String → Prop}
    [∀ position cells, Decidable (leaves position cells)]
    [∀ position cells, Decidable (more position cells)]
    (h : ∀ position cells, leaves position cells → more position cells) :
    (table.rowsWithout more).Sublist (table.rowsWithout leaves) := by
  apply List.monotone_filter_right
  intro row hkept
  rw [decide_eq_true_eq] at hkept ⊢
  exact mt (h _ _) hkept

theorem mem_rowsWithout_iff {table : Element} {leaves : Nat → List String → Prop}
    [∀ position cells, Decidable (leaves position cells)] {row : Element × Nat}
    (hrow : row ∈ table.ownRows.zipIdx) :
    row ∈ table.rowsWithout leaves ↔ ¬leaves row.2 (row.1.cells.map text) := by
  rw [rowsWithout, List.mem_filter, decide_eq_true_eq]
  exact and_iff_right hrow

/-- With values in normal form a part of the rows is kept. -/
theorem rowsWithout_normalized_sublist (table : Element) (filter : RowFilter) :
    (table.rowsWithout (filter.LeavesOut Text.normalize)).Sublist
      (table.rowsWithout (filter.LeavesOut id)) :=
  table.rowsWithout_sublist fun _ _ hleaves => hleaves.normalized

end Markup.Element

/-! ## Values and normal forms -/

namespace RowFilter

/-- The form in which the values of a filter are read does not matter: no column is a position in a
row, or the normal form of every value is one of the values, as far as the filter can see. -/
def HasNormalValues (filter : RowFilter) : Prop :=
  (∀ column ∈ filter.columns, column < 0) ∨
    ∀ value ∈ filter.values, ∃ other ∈ filter.values,
      filter.seen other.toText = filter.seen (Text.normalize value.toText)

instance (filter : RowFilter) : Decidable filter.HasNormalValues :=
  inferInstanceAs (Decidable ((∀ column ∈ filter.columns, column < 0) ∨
    ∀ value ∈ filter.values, ∃ other ∈ filter.values, _ = _))

/-- Filters whose values have their normal forms among them leave out what they would leave out with
all values in normal form. -/
theorem HasNormalValues.leavesOut {filter : RowFilter} (h : filter.HasNormalValues)
    {position : Nat} {cells : List String}
    (hleaves : filter.LeavesOut Text.normalize position cells) :
    filter.LeavesOut id position cells := by
  rcases hleaves with hposition | ⟨column, hcolumn, cell, hcell, value, hvalue, hseen⟩
  · exact .inl hposition
  · rcases h with hcolumns | hvalues
    · -- before the first position there is no cell
      have hnone : itemAt? cells column = none := if_pos (hcolumns column hcolumn)
      rw [hnone] at hcell
      cases hcell
    · obtain ⟨other, hother, hsame⟩ := hvalues value hvalue
      exact .inr ⟨column, hcolumn, cell, hcell, other, hother, hseen.trans hsame.symm⟩

/-- There is a position at which a filter leaves no row out for its position. -/
theorem exists_position (filter : RowFilter) :
    ∃ position : Nat, (position : Int) ∉ filter.indices := by
  obtain ⟨position, hposition⟩ :=
    Infinite.exists_notMem_finset (filter.indices.map Int.toNat).toFinset
  refine ⟨position, ?_⟩
  intro hmem
  apply hposition
  rw [List.mem_toFinset]
  exact List.mem_map.2 ⟨_, hmem, Int.toNat_natCast position⟩

/-- **Only such filters do**: any other one keeps a row whose cells are the normal form of one of
its values. -/
theorem hasNormalValues_of_leavesOut {filter : RowFilter}
    (h : ∀ position cells, filter.LeavesOut Text.normalize position cells →
      filter.LeavesOut id position cells) : filter.HasNormalValues := by
  by_contra hnot
  rw [HasNormalValues, not_or] at hnot
  obtain ⟨hcolumns, hvalues⟩ := hnot
  push Not at hcolumns hvalues
  obtain ⟨column, hcolumn, hnonneg⟩ := hcolumns
  obtain ⟨value, hvalue, hother⟩ := hvalues
  obtain ⟨position, hposition⟩ := filter.exists_position
  -- a row that reaches the column, with the same text in all its cells
  let cell := Text.normalize value.toText
  let cells := List.replicate (column.toNat + 1) cell
  have hcell : itemAt? cells column = some cell := by
    rw [itemAt?, if_neg (by omega), List.getElem?_replicate_of_lt (Nat.lt_succ_self _)]
  have hmeant : filter.LeavesOut Text.normalize position cells := by
    refine .inr ⟨column, hcolumn, cell, hcell, value, hvalue, ?_⟩
    rw [Text.normalize_normalize]
  rcases h position cells hmeant with hat | ⟨column', hcolumn', cell', hcell', other, hmem, hseen⟩
  · exact hposition hat
  · -- all cells of the row are the same one, whichever column is looked at
    have hsame : cell' = cell := by
      unfold itemAt? at hcell'
      split at hcell'
      · cases hcell'
      · exact List.eq_of_mem_replicate (List.mem_of_getElem? hcell')
    rw [hsame, Text.normalize_normalize] at hseen
    exact hother other hmem hseen.symm

end RowFilter

/-! ## Grids -/

namespace Grid

theorem rows_ofTable? (table : Element) (shape : Shape) (filter : RowFilter) :
    (ofTable? (some table) shape filter).rows =
      (table.rowsWithout (filter.LeavesOut id)).map fun row => row.1.cells.map Element.text := by
  have hkept : (fun row : Element × Nat =>
      !filter.drops row.2 (row.1.cells.map Element.text)) = fun row =>
        decide ¬filter.LeavesOut id row.2 (row.1.cells.map Element.text) := by
    funext row
    rw [Bool.eq_iff_iff, decide_eq_true_eq, ← RowFilter.drops_iff, Bool.not_eq_true',
      Bool.not_eq_true]
  show filter.keep table.cellTexts = _
  rw [RowFilter.keep_eq, Element.cellTexts, List.zipIdx_map, List.filter_map, List.map_map,
    Element.rowsWithout, ← hkept]
  rfl

/-- If a table has the same rows with the values of a filter in normal form, the same rows are left
out of it. -/
theorem leavesOut_of_rows_eq {table : Element} {shape : Shape} {filter : RowFilter}
    (h : (ofTable? (some table) shape filter).rows =
      (table.rowsWithout (filter.LeavesOut Text.normalize)).map fun row =>
        row.1.cells.map Element.text) {row : Element × Nat} (hrow : row ∈ table.ownRows.zipIdx)
    (hleaves : filter.LeavesOut Text.normalize row.2 (row.1.cells.map Element.text)) :
    filter.LeavesOut id row.2 (row.1.cells.map Element.text) := by
  -- fewer rows are kept with values in normal form, and here they are not fewer
  have hsublist := table.rowsWithout_normalized_sublist filter
  have hlength : (table.rowsWithout (filter.LeavesOut Text.normalize)).length =
      (table.rowsWithout (filter.LeavesOut id)).length := by
    rw [rows_ofTable?] at h
    simpa using congrArg List.length h.symm
  have hgone : row ∉ table.rowsWithout (filter.LeavesOut Text.normalize) := by
    intro hkept
    exact (Element.mem_rowsWithout_iff hrow).1 hkept hleaves
  rw [hsublist.eq_of_length hlength] at hgone
  by_contra hkept
  exact hgone ((Element.mem_rowsWithout_iff hrow).2 hkept)

/-- **When the form of the values does not matter** for any table. -/
theorem rows_eq_normalized_iff (shape : Shape) (filter : RowFilter) :
    (∀ table : Element, (ofTable? (some table) shape filter).rows =
      (table.rowsWithout (filter.LeavesOut Text.normalize)).map fun row =>
        row.1.cells.map Element.text) ↔ filter.HasNormalValues := by
  constructor
  · intro h
    apply RowFilter.hasNormalValues_of_leavesOut
    intro position cells hleaves
    -- the row behind as many others as its position says
    let table := Element.ofTexts (List.replicate position [] ++ [cells])
    have hrow : (Element.rowOfTexts cells, position) ∈ table.ownRows.zipIdx := by
      rw [List.mk_mem_zipIdx_iff_getElem?, Element.ownRows_ofTexts, List.map_append,
        List.getElem?_append_right (by simp)]
      simp
    have htexts := Element.texts_rowOfTexts cells
    have hout := leavesOut_of_rows_eq (h table) hrow
    rw [htexts] at hout
    exact hout hleaves
  · intro h table
    have hmore : (table.rowsWithout (filter.LeavesOut id)).Sublist
        (table.rowsWithout (filter.LeavesOut Text.normalize)) :=
      table.rowsWithout_sublist fun _ _ hleaves => h.leavesOut hleaves
    rw [rows_ofTable?, hmore.antisymm (table.rowsWithout_normalized_sublist filter)]

/-- **The rows that a filter leaves out**. The grid of a table has the rows of the table, in order,
without those that stand at one of the positions and those with a cell in one of the columns whose
normal form is one of the values as it stands, letter case aside unless it counts. None of them
would stay if the values were taken in normal form as well. No other row would go, whatever the
table, exactly if no column is a position in a row, or if the normal form of every value is one of
the values, letter case aside unless it counts. -/
theorem rows_left_out_exactly (shape : Shape) (filter : RowFilter) :
    (∀ table : Element, (ofTable? (some table) shape filter).rows =
      (table.rowsWithout (filter.LeavesOut id)).map fun row => row.1.cells.map Element.text) ∧
    (∀ position cells, filter.LeavesOut id position cells →
      filter.LeavesOut Text.normalize position cells) ∧
    ((∀ table : Element, (ofTable? (some table) shape filter).rows =
      (table.rowsWithout (filter.LeavesOut Text.normalize)).map fun row =>
        row.1.cells.map Element.text) ↔ filter.HasNormalValues) :=
  ⟨fun table => rows_ofTable? table shape filter,
    fun _ _ hleaves => hleaves.normalized,
    rows_eq_normalized_iff shape filter⟩

/-- Of three rows the one with the value is left out, whatever its letter case and its blanks. The
value is its own normal form, so that it does not matter how it is read. -/
theorem rows_left_out_exactly_total :
    let filter : RowFilter := { values := [.text "total"], columns := [-1, 0, 7] }
    let table := Element.ofTexts [["Land", "7"], [" TOTAL\n", "9"], []]
    filter.HasNormalValues ∧ filter.LeavesOut id 1 [" TOTAL\n", "9"] ∧
      filter.LeavesOut Text.normalize 1 [" TOTAL\n", "9"] ∧
      (ofTable? (some table) .horizontal filter).rows = [["Land", "7"], []] ∧
      (ofTable? (some table) .horizontal filter).rows =
        (table.rowsWithout (filter.LeavesOut Text.normalize)).map fun row =>
          row.1.cells.map Element.text := by
  intro filter table
  obtain ⟨hrows, hmore, hform⟩ := rows_left_out_exactly .horizontal filter
  have hnormal : filter.HasNormalValues := by decide +kernel
  have hleaves : filter.LeavesOut id 1 [" TOTAL\n", "9"] := by decide +kernel
  refine ⟨hnormal, hleaves, hmore 1 _ hleaves, ?_, hform.2 hnormal table⟩
  rw [hrows table]
  decide +kernel

/-- **A value copied from its cell** is not found in it, if it has two blanks between its words. -/
theorem row_kept_under_copied_value :
    let filter : RowFilter := { values := [.text "Grand  Total"], columns := [0] }
    let table := Element.ofTexts [["Grand  Total"]]
    filter.LeavesOut Text.normalize 0 ["Grand  Total"] ∧
      (ofTable? (some table) .horizontal filter).rows = [["Grand  Total"]] ∧
      table.rowsWithout (filter.LeavesOut Text.normalize) = [] := by
  decide +kernel

end Grid

/-! ## Filters with more in them -/

namespace RowFilter

variable {narrow wide : RowFilter}

/-- All values, columns and positions of one filter are in another, and letter case counts for the
other only if it counts for the one. -/
structure Within (narrow wide : RowFilter) : Prop where
  values : narrow.values ⊆ wide.values
  columns : narrow.columns ⊆ wide.columns
  indices : narrow.indices ⊆ wide.indices
  caseSensitive : wide.caseSensitive = true → narrow.caseSensitive = true

/-- A filter is within the one that does not look at letter case. -/
theorem within_ignoringCase (filter : RowFilter) :
    filter.Within { filter with caseSensitive := false } where
  values := List.Subset.refl _
  columns := List.Subset.refl _
  indices := List.Subset.refl _
  caseSensitive h := by cases h

/-- **A filter with more in it leaves out more**, in whatever form values are read. -/
theorem LeavesOut.mono (hwithin : narrow.Within wide) {reading : String → String} {position : Nat}
    {cells : List String} (h : narrow.LeavesOut reading position cells) :
    wide.LeavesOut reading position cells := by
  rcases h with hposition | ⟨column, hcolumn, cell, hcell, value, hvalue, hseen⟩
  · exact .inl (hwithin.indices hposition)
  · exact .inr ⟨column, hwithin.columns hcolumn, cell, hcell, value, hwithin.values hvalue,
      seen_congr hwithin.caseSensitive hseen⟩

theorem Within.rowsWithout_sublist (hwithin : narrow.Within wide) (table : Element) :
    (table.rowsWithout (wide.LeavesOut id)).Sublist (table.rowsWithout (narrow.LeavesOut id)) :=
  table.rowsWithout_sublist fun _ _ hleaves => hleaves.mono hwithin

end RowFilter

namespace Grid

/-- **A filter with more in it keeps less**. If all that is in one filter is in another, the rows
that the other keeps, known by their positions in the table, are some of those that the one keeps,
in the same order, and the grids have just these rows. Two filters that are within each other, whose
items differ in order and repetition alone, give the same grid; and without a look at letter case
only fewer rows are kept. -/
theorem wider_filter_keeps_less {narrow wide : RowFilter} (hwithin : narrow.Within wide)
    (table : Element) (shape : Shape) :
    (table.rowsWithout (wide.LeavesOut id)).Sublist (table.rowsWithout (narrow.LeavesOut id)) ∧
    (∀ filter : RowFilter, (ofTable? (some table) shape filter).rows =
      (table.rowsWithout (filter.LeavesOut id)).map fun row => row.1.cells.map Element.text) ∧
    (wide.Within narrow →
      ofTable? (some table) shape wide = ofTable? (some table) shape narrow) ∧
    (table.rowsWithout ({ narrow with caseSensitive := false }.LeavesOut id)).Sublist
      (table.rowsWithout (narrow.LeavesOut id)) := by
  have hless := hwithin.rowsWithout_sublist table
  have hcase := narrow.within_ignoringCase.rowsWithout_sublist table
  refine ⟨hless, rows_ofTable? table shape, ?_, hcase⟩
  intro hback
  -- a grid is its rows, and each of the two lists of rows is a part of the other
  have hrows : (ofTable? (some table) shape wide).rows =
      (ofTable? (some table) shape narrow).rows := by
    rw [rows_ofTable?, rows_ofTable?, hless.antisymm (hback.rowsWithout_sublist table)]
  show Grid.mk shape (some (ofTable? (some table) shape wide).rows) =
    Grid.mk shape (some (ofTable? (some table) shape narrow).rows)
  rw [hrows]

/-- One more value, one more column and one more position, with no look at letter case: of the three
rows that are kept one stays, and it does under the same items in another order. -/
theorem wider_filter_keeps_less_by_two :
    let narrow : RowFilter := { values := [.text "Total"], columns := [0], caseSensitive := true }
    let wide : RowFilter :=
      { values := [.int 2020, .text "Total"], columns := [1, 0], indices := [3] }
    let shuffled : RowFilter :=
      { values := [.text "Total", .int 2020, .text "Total"], columns := [0, 1], indices := [3, 3] }
    let table := Element.ofTexts [["Total"], ["TOTAL"], ["Land", "7"], ["Building", "9"]]
    narrow.Within wide ∧ shuffled.Within wide ∧ wide.Within shuffled ∧
      (table.rowsWithout (wide.LeavesOut id)).Sublist (table.rowsWithout (narrow.LeavesOut id)) ∧
      (ofTable? (some table) .horizontal narrow).rows =
        [["TOTAL"], ["Land", "7"], ["Building", "9"]] ∧
      (ofTable? (some table) .horizontal wide).rows = [["Land", "7"]] ∧
      ofTable? (some table) .horizontal wide = ofTable? (some table) .horizontal shuffled := by
  intro narrow wide shuffled table
  have hwithin : narrow.Within wide := ⟨by decide, by decide, by decide, by decide⟩
  have hforth : shuffled.Within wide := ⟨by decide, by decide, by decide, by decide⟩
  have hback : wide.Within shuffled := ⟨by decide, by decide, by decide, by decide⟩
  obtain ⟨hless, hrows, -, -⟩ := wider_filter_keeps_less hwithin table .horizontal
  obtain ⟨-, -, hsame, -⟩ := wider_filter_keeps_less hforth table .horizontal
  refine ⟨hwithin, hforth, hback, hless, ?_, ?_, hsame hback⟩
  · rw [hrows narrow]
    decide +kernel
  · rw [hrows wide]
    decide +kernel

end Grid

end ParcelRecords
