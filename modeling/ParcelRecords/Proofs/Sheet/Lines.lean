import ParcelRecords.Proofs.Sheet.Pasting

/-!
# The lines of pasted text

Text to paste is a line of names and a line of values with a line feed between them, or the line of
values alone; cells may hold line feeds in their turn, since they then stand in quotes. A reader
that ends rows at line feeds and nowhere else reads back what was written, whatever the cells hold.
A record has a column, so neither line is empty, and that the last one has no line feed behind it
takes nothing away from it.

## Main definitions

* `Sheet.line`: a row of cells as it is pasted

## Main results

* `Sheet.toTsv_values`, `Sheet.toTsv_both`: the two forms of the text, line by line
* `Sheet.decode_line`: a line is read back
* `Sheet.pasted_lines_read_back`: both forms are read back, and end with the same line
-/

namespace ParcelRecords.Sheet

open Delimited (Dialect RowBreak decode encodeRow encodeRows)

/-! ## Lines -/

/-- The text of one row, without a line feed behind it. -/
def line (cells : List String) : String :=
  String.ofList (encodeRow .tabs (cells.map String.toList))

/-- Without names the text is the line of values. -/
theorem toTsv_values (flat : Record) : toTsv false flat = line (values flat) := by
  rw [← String.toList_inj, toList_toTsv, line, String.toList_ofList]
  rfl

/-- **With names** the text is their line, a line feed, and the text without names. -/
theorem toTsv_both (flat : Record) :
    toTsv true flat = line (headers flat) ++ "\n" ++ toTsv false flat := by
  have hfront : encodeRows .tabs ((frontRows true flat).map (·.map String.toList)) =
      encodeRow .tabs ((headers flat).map String.toList) ++ ['\n'] := by
    simp [frontRows, encodeRows, Dialect.tabs]
  rw [← String.toList_inj, toTsv_values, toList_toTsv, hfront]
  simp only [line, String.toList_append, String.toList_ofList]
  rfl

/-! ## Reading -/

/-- **A line with a cell is read back** as one row. -/
theorem decode_line {cells : List String} (hne : cells ≠ []) :
    decode '\t' .lineFeed (line cells) = [cells] := by
  have hcells : cells.map String.toList ≠ [] := by simpa using hne
  rw [Delimited.decode_eq_iff, line, String.toList_ofList]
  exact (Delimited.readRowsFrom_encodeRows_iff Dialect.tabs_isReadBy.toIsFramedBy (by decide)
    hcells []).2 fun row _ cell _ => Dialect.tabs_isReadBy.keeps cell

/-- **Pasted text is read back** under its own rules, with names and without. With names it is their
line, which is read back as well, a line feed, and exactly the text without names. -/
theorem pasted_lines_read_back {flat : Record} (hflat : flat.isEmpty = false) :
    decode '\t' .lineFeed (toTsv true flat) = rows flat ∧
    decode '\t' .lineFeed (toTsv false flat) = [values flat] ∧
    toTsv true flat = line (headers flat) ++ "\n" ++ toTsv false flat ∧
    decode '\t' .lineFeed (line (headers flat)) = [headers flat] := by
  have hread (withHeaders : Bool) :
      decode '\t' .lineFeed (toTsv withHeaders flat) = pastedRows withHeaders flat :=
    (decode_toTsv_iff_keeps rfl hflat withHeaders).2
      fun row _ cell _ => Dialect.tabs_isReadBy.keeps cell.toList
  have hheaders : headers flat ≠ [] := by
    simpa [headers, OrderedMap.keys, OrderedMap.isEmpty] using hflat
  exact ⟨hread true, hread false, toTsv_both flat, decode_line hheaders⟩

/-- A record of one column, with a break of lines in its name and no value. -/
def unvalued : Record :=
  .ofList [("lot\nblock", .null)]

/-- The empty cell is pasted in quotes, so that its line is not taken for no line. -/
theorem pasted_lines_read_back_unvalued :
    unvalued.isEmpty = false ∧
      toTsv true unvalued = "\"lot\nblock\"\n" ++ toTsv false unvalued ∧
      toTsv false unvalued = "\"\"" ∧
      decode '\t' .lineFeed (toTsv true unvalued) = [["lot\nblock"], [""]] ∧
      decode '\t' .lineFeed (toTsv false unvalued) = [[""]] := by
  have hflat : unvalued.isEmpty = false := by decide
  obtain ⟨hboth, hvalues, htext, -⟩ := pasted_lines_read_back hflat
  have hline : line (headers unvalued) ++ "\n" = "\"lot\nblock\"\n" := by decide +kernel
  rw [hline] at htext
  exact ⟨hflat, htext, by decide +kernel, hboth, hvalues⟩

end ParcelRecords.Sheet
