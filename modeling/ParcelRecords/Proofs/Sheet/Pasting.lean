import ParcelRecords.Proofs.Delimited.Splitting
import ParcelRecords.Proofs.Sheet.History

/-!
# Records in two forms of text

A record goes to a sheet as rows with commas and to the clipboard as rows with tabs, the last of
them without its line feed. The sheet is read back whatever its cells hold. The pasted text is not:
a carriage return ends no row that is written with tabs, so it does not put its cell in quotes, but
a reader that takes it for the end of a row splits the cell there.

## Main definitions

* `Sheet.pastedRows`: the rows of a record that are pasted
* `Sheet.StaysWhole`: a cell that no carriage return splits

## Main results

* `Sheet.decode_toTsv_iff`: which records are read back from the pasted text
* `Sheet.sheet_and_paste_carry_rows`: both forms of text together
-/

namespace ParcelRecords.Sheet

open Delimited (Dialect RowBreak decode encode encodeRow encodeRows needsQuotes)

/-! ## Cells -/

/-- A carriage return in the cell stands in quotes, on account of some other character. -/
def StaysWhole (cell : String) : Prop :=
  '\r' ∈ cell.toList → '\t' ∈ cell.toList ∨ '\n' ∈ cell.toList ∨ '"' ∈ cell.toList

instance : DecidablePred StaysWhole := fun _ => inferInstanceAs (Decidable (_ → _))

theorem needsQuotes_tabs_iff {cell : List Char} :
    needsQuotes .tabs cell = true ↔ '\t' ∈ cell ∨ '\n' ∈ cell ∨ '"' ∈ cell := by
  rw [needsQuotes, List.any_eq_true]
  constructor
  · rintro ⟨c, hc, hmeets⟩
    have hcases : c = Dialect.tabs.delimiter ∨ c = Delimited.quote ∨
        c ∈ Dialect.tabs.terminator := by
      simpa [or_assoc] using hmeets
    rcases hcases with rfl | rfl | hbreak
    · exact .inl hc
    · exact .inr (.inr hc)
    · obtain rfl := List.mem_singleton.1 hbreak
      exact .inr (.inl hc)
  · rintro (hc | hc | hc)
    · exact ⟨_, hc, by decide⟩
    · exact ⟨_, hc, by decide⟩
    · exact ⟨_, hc, by decide⟩

/-- Rows with tabs keep the cells that no carriage return splits. -/
theorem keeps_tabs_iff {cell : String} :
    Dialect.tabs.Keeps .any cell.toList ↔ StaysWhole cell := by
  unfold Dialect.Keeps StaysWhole
  rw [← needsQuotes_tabs_iff]
  constructor
  · rintro (hquotes | hpasses) hreturn
    · exact hquotes
    · exact absurd (hpasses _ hreturn).1 (by decide)
  · intro h
    by_cases hquotes : needsQuotes .tabs cell.toList = true
    · exact .inl hquotes
    · -- a cell without quotes has no line feed either
      refine .inr fun c hc => RowBreak.passes_of_ne ?_ ?_
      · rintro rfl
        exact hquotes (h hc)
      · rintro rfl
        exact hquotes (needsQuotes_tabs_iff.2 (.inr (.inl hc)))

/-! ## Pasted text -/

/-- The rows that are pasted in front of the values. -/
def frontRows (withHeaders : Bool) (flat : Record) : List (List String) :=
  if withHeaders then [headers flat] else []

/-- The rows of a record that are pasted. -/
def pastedRows (withHeaders : Bool) (flat : Record) : List (List String) :=
  frontRows withHeaders flat ++ [values flat]

theorem dropFinalBreak_encodeRows (rows : List (List (List Char))) (last : List (List Char)) :
    dropFinalBreak (encodeRows .tabs (rows ++ [last])) =
      encodeRows .tabs rows ++ encodeRow .tabs last := by
  have htext : encodeRows .tabs (rows ++ [last]) =
      encodeRows .tabs rows ++ encodeRow .tabs last ++ ['\n'] := by
    simp [encodeRows, Dialect.tabs]
  rw [htext, dropFinalBreak, if_pos (by simp), List.dropLast_concat]

/-- **The pasted text** is that of its rows, the last of them without its line feed. -/
theorem toList_toTsv (withHeaders : Bool) (flat : Record) :
    (toTsv withHeaders flat).toList =
      encodeRows .tabs ((frontRows withHeaders flat).map (·.map String.toList)) ++
        encodeRow .tabs ((values flat).map String.toList) := by
  have hrows : (if withHeaders then rows flat else [values flat]) = pastedRows withHeaders flat := by
    cases withHeaders <;> rfl
  rw [toTsv, hrows, String.toList_ofList, encode, String.toList_ofList, pastedRows, List.map_append,
    List.map_singleton, dropFinalBreak_encodeRows]

/-- **Which records are read back from the pasted text** by a reader that ends rows at line feeds:
those whose cells it keeps. -/
theorem decode_toTsv_iff_keeps {b : RowBreak} (hbreak : b.endsAt '\n' = true) {flat : Record}
    (hflat : flat.isEmpty = false) (withHeaders : Bool) :
    decode '\t' b (toTsv withHeaders flat) = pastedRows withHeaders flat ↔
      ∀ row ∈ pastedRows withHeaders flat, ∀ cell ∈ row, Dialect.tabs.Keeps b cell.toList := by
  have hlast : (values flat).map String.toList ≠ [] := by
    simpa [values, OrderedMap.values, OrderedMap.isEmpty] using hflat
  have hframed : Dialect.tabs.IsFramedBy b := Dialect.tabs_isFramedBy hbreak
  have hpair : b ≠ .pair := by
    rintro rfl
    cases hbreak
  have hrows : (pastedRows withHeaders flat).map (·.map String.toList) =
      (frontRows withHeaders flat).map (·.map String.toList) ++
        [(values flat).map String.toList] := by
    rw [pastedRows, List.map_append, List.map_singleton]
  calc decode '\t' b (toTsv withHeaders flat) = pastedRows withHeaders flat
    _ ↔ Delimited.readRows '\t' b (toTsv withHeaders flat).toList =
          (pastedRows withHeaders flat).map (·.map String.toList) := Delimited.decode_eq_iff
    _ ↔ ∀ row ∈ (pastedRows withHeaders flat).map (·.map String.toList), ∀ cell ∈ row,
          Dialect.tabs.Keeps b cell := by
        rw [toList_toTsv, hrows]
        exact Delimited.readRowsFrom_encodeRows_iff hframed hpair hlast _
    _ ↔ ∀ row ∈ pastedRows withHeaders flat, ∀ cell ∈ row, Dialect.tabs.Keeps b cell.toList := by
        simp only [List.forall_mem_map]

/-- A reader that ends rows at carriage returns as well reads back the records whose cells all stay
whole. -/
theorem decode_toTsv_iff {flat : Record} (hflat : flat.isEmpty = false) (withHeaders : Bool) :
    decode '\t' .any (toTsv withHeaders flat) = pastedRows withHeaders flat ↔
      ∀ row ∈ pastedRows withHeaders flat, ∀ cell ∈ row, StaysWhole cell := by
  rw [decode_toTsv_iff_keeps rfl hflat]
  simp only [keeps_tabs_iff]

/-- **A record in both forms of text**. The rows that a record leaves in a new sheet are read back.
Those of its pasted text are read back exactly if no cell is split, that is if each cell with a
carriage return also holds a tab, a line feed or a quote. -/
theorem sheet_and_paste_carry_rows {flat : Record} (hflat : flat.isEmpty = false)
    {folder : SheetFolder} {site : String} (hnew : folder.has (SheetFolder.fileName site) = false) :
    (∃ content, (folder.append site flat).get? (SheetFolder.fileName site) = some content ∧
      decode ',' .any content = rows flat) ∧
    (decode '\t' .any (toTsv true flat) = rows flat ↔
      ∀ row ∈ rows flat, ∀ cell ∈ row, StaysWhole cell) := by
  constructor
  · have hnone : folder.get? (SheetFolder.fileName site) = none := by
      simpa [SheetFolder.has] using hnew
    refine ⟨SheetFolder.appended flat, ?_, Delimited.decode_encode (Dialect.commas_isReadBy rfl) _⟩
    rw [SheetFolder.get?_append, if_pos rfl, hnone, Option.getD_none, String.empty_append]
  · exact decode_toTsv_iff hflat true

/-- A record with a break of lines, a tab and quotes in one cell, and with an empty cell. -/
def annotated : Record :=
  .ofList [("address, as given", .str "1 MAIN ST\r\nMIAMI\t\"FL\""), ("owner", .null),
    ("values", .arr [.int 100, .str "a\tb"])]

theorem sheet_and_paste_carry_rows_annotated :
    annotated.isEmpty = false ∧
      SheetFolder.has .empty (SheetFolder.fileName "miamidade.gov") = false ∧
      (∃ content, (SheetFolder.append .empty "miamidade.gov" annotated).get?
          (SheetFolder.fileName "miamidade.gov") = some content ∧
        decode ',' .any content = rows annotated) ∧
      decode '\t' .any (toTsv true annotated) = rows annotated := by
  have hflat : annotated.isEmpty = false := by decide
  have hnew : SheetFolder.has .empty (SheetFolder.fileName "miamidade.gov") = false := rfl
  have hwhole : ∀ row ∈ rows annotated, ∀ cell ∈ row, StaysWhole cell := by decide +kernel
  obtain ⟨hsheet, hpaste⟩ := sheet_and_paste_carry_rows hflat hnew
  exact ⟨hflat, hnew, hsheet, hpaste.2 hwhole⟩

/-- A carriage return alone leaves its cell without quotes, so that a reader that ends rows there
reads two rows where one was pasted. -/
theorem paste_split_at_return :
    let flat : Record := .ofList [("propertyAddress", .str "1 MAIN ST\rMIAMI")]
    rows flat = [["propertyAddress"], ["1 MAIN ST\rMIAMI"]] ∧
      decode '\t' .any (toTsv true flat) = [["propertyAddress"], ["1 MAIN ST"], ["MIAMI"]] ∧
      decode ',' .any (SheetFolder.appended flat) = rows flat := by
  decide +kernel

end ParcelRecords.Sheet
