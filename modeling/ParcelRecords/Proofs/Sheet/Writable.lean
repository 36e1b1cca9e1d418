import ParcelRecords.Proofs.Json.Writable
import ParcelRecords.Proofs.Sheet.History

/-!
# Records that can be written to a sheet

A row can be written if each of its cells can: what stands between the cells and around them is
ASCII. A sheet takes a record if its file can be opened and both of its rows can be written; it grows
by both rows then. Otherwise writing breaks off, and what was written before stays: nothing if the
file cannot be opened, an empty file if it is the names that cannot be written, and the row of names
if it is the values.

## Main definitions

* `Sheet.IsWritable`: all cells of a record can be written
* `SheetFolder.Takes`: the sheet of a site takes a record
* `SheetFolder.written`: the rows of a record before the first that cannot be written
* `SheetFolder.writeAll`: the folder after some records were written, or what can be written of them

## Main results

* `Delimited.isWritable_encode_iff`: rows as text
* `Sheet.isWritable_of_fields`, `Sheet.isWritable_toTsv`: the rows and the text of a record whose
  fields can be written
* `SheetFolder.write_of_long`, `SheetFolder.write_of_short`: what a write leaves, and what is wrong
* `SheetFolder.write_of_takes`, `SheetFolder.write_error_eq_none_iff`: when a record is written
-/

namespace ParcelRecords

open Text (NoHalf noHalf_append_iff noHalf_cons_iff noHalf_nil noHalf_flatMap_iff)

/-! ## Rows

The encoder adds quotes, delimiters and line ends to the cells, and doubles the quotes inside them.
None of these is a half, so the text of rows holds one exactly if a cell does. -/

namespace Delimited

theorem noHalf_doubleQuotes_iff {cell : List Char} : NoHalf (doubleQuotes cell) ↔ NoHalf cell := by
  rw [doubleQuotes, noHalf_flatMap_iff]
  refine forall₂_congr fun c _ => ?_
  split
  · -- a quote, which is written twice
    rename_i hc
    simp [hc]
  · simp

theorem noHalf_encodeCell_iff {d : Dialect} {cell : List Char} :
    NoHalf (encodeCell d cell) ↔ NoHalf cell := by
  have hquote : Text.isHalf quote = false := by decide
  unfold encodeCell
  split
  · simp [hquote, noHalf_doubleQuotes_iff]
  · rfl

section Dialect

variable {d : Dialect} (hd : Text.isHalf d.delimiter = false) (ht : NoHalf d.terminator)

include hd

theorem noHalf_encodeRow_iff {row : List (List Char)} :
    NoHalf (encodeRow d row) ↔ ∀ cell ∈ row, NoHalf cell := by
  have hcells (cells : List (List Char)) :
      NoHalf (encodeCells d cells) ↔ ∀ cell ∈ cells, NoHalf cell := by
    simp only [encodeCells, noHalf_flatMap_iff, noHalf_cons_iff, hd, noHalf_encodeCell_iff, true_and]
  unfold encodeRow
  split
  · simp
  · -- a row of one empty cell is written as two quotes
    simp only [List.forall_mem_singleton]
    decide
  · rw [noHalf_append_iff, noHalf_encodeCell_iff, hcells, List.forall_mem_cons]

include ht

/-- **Rows can be written** if all of their cells can. -/
theorem isWritable_encode_iff {rows : List (List String)} :
    Text.isWritable (encode d rows) = true ↔
      ∀ row ∈ rows, ∀ cell ∈ row, Text.isWritable cell = true := by
  rw [encode, Text.isWritable_ofList_iff, encodeRows, noHalf_flatMap_iff, List.forall_mem_map]
  simp only [noHalf_append_iff, noHalf_encodeRow_iff hd, ht, and_true, List.forall_mem_map,
    Text.isWritable_iff]

end Dialect

end Delimited

/-! ## Records

The cells of a record are the names of its fields and the texts of their values. A list shows its
members as they are, but what stands inside an object is listed in quotes. So the fields decide about
the cells in one direction only: a half deep inside a value may be quoted away. -/

namespace Sheet

/-- All cells of a record can be written. -/
def IsWritable (flat : Record) : Prop :=
  ∀ row ∈ rows flat, ∀ cell ∈ row, Text.isWritable cell = true

theorem isWritable_iff_all {flat : Record} :
    IsWritable flat ↔ ((rows flat).all fun row => row.all Text.isWritable) = true := by
  simp only [IsWritable, List.all_eq_true]

instance (flat : Record) : Decidable (IsWritable flat) :=
  decidable_of_iff _ isWritable_iff_all.symm

theorem isWritable_commaJoined {items : List String}
    (h : ∀ item ∈ items, Text.isWritable item = true) :
    Text.isWritable (commaJoined items) = true := by
  induction items using commaJoined.induct with
  | case1 => rfl
  | case2 item => exact h item List.mem_cons_self
  | case3 item rest hrest ih =>
    rw [commaJoined, Text.isWritable_append, Text.isWritable_append, h item List.mem_cons_self,
      ih fun m hm => h m (List.mem_cons_of_mem _ hm)]
    · decide
    · exact hrest

mutual

theorem isWritable_cellText (v : Json) (h : v.isWritable = true) :
    Text.isWritable (cellText v) = true := by
  match v with
  | .null => decide
  | .bool b => cases b <;> decide
  | .arr items =>
    rw [cellText]
    rw [Json.isWritable] at h
    exact isWritable_commaJoined (isWritable_cellTexts items h)
  | .int i => exact Json.isWritable_toText h
  | .float x => exact Json.isWritable_toText h
  | .str s => exact Json.isWritable_toText h
  | .obj fields => exact Json.isWritable_toText h

theorem isWritable_cellTexts (items : List Json) (h : Json.areWritable items = true) :
    ∀ text ∈ cellTexts items, Text.isWritable text = true := by
  match items with
  | [] => simp [cellTexts]
  | item :: rest =>
    rw [Json.areWritable, Bool.and_eq_true] at h
    rw [cellTexts, List.forall_mem_cons]
    exact ⟨isWritable_cellText item h.1, isWritable_cellTexts rest h.2⟩

end

theorem noHalf_dropFinalBreak {cs : List Char} (h : NoHalf cs) : NoHalf (dropFinalBreak cs) := by
  unfold dropFinalBreak
  split
  · exact h.of_subset (List.dropLast_subset cs)
  · exact h

section Fields

variable {flat : Record} (h : (Json.obj flat.entries).isWritable = true)

include h

/-- **The cells of a record** can be written if its fields can. -/
theorem isWritable_of_fields : IsWritable flat := by
  have hfields := Json.fieldsWritable_iff.1 h
  simp only [IsWritable, rows, List.forall_mem_cons, List.not_mem_nil, false_imp_iff, implies_true,
    and_true]
  constructor
  · exact List.forall_mem_map.2 fun f hf => (hfields f hf).1
  · refine List.forall_mem_map.2 fun v hv => ?_
    obtain ⟨f, hf, rfl⟩ := List.mem_map.1 hv
    exact isWritable_cellText f.2 (hfields f hf).2

/-- **The text of a record to paste** can be written if its fields can. -/
theorem isWritable_toTsv (withHeaders : Bool) : Text.isWritable (toTsv withHeaders flat) = true := by
  have hrows := isWritable_of_fields h
  have htext : Text.isWritable (Delimited.encode .tabs
      (if withHeaders then rows flat else [values flat])) = true := by
    rw [Delimited.isWritable_encode_iff (by decide) (by decide)]
    intro row hrow
    split at hrow
    · exact hrows row hrow
    · exact hrows row (List.mem_cons_of_mem _ hrow)
  rw [toTsv, Text.isWritable_ofList_iff]
  exact noHalf_dropFinalBreak (Text.isWritable_iff.1 htext)

end Fields

end Sheet

/-! ## Writing

A row is written behind those before it, or writing breaks off. So a write leaves the folder with one
text behind the file of the site, that of the rows up to the first that cannot be written; and
nothing is wrong with it exactly if these are all rows. -/

namespace SheetFolder

open Delimited (encode)

/-- Whether a row can be written. -/
def isWritableRow (row : List String) : Bool :=
  Text.isWritable (rowText row)

/-- The rows of a record before the first that cannot be written. -/
def written (flat : Record) : List (List String) :=
  (Sheet.rows flat).takeWhile isWritableRow

/-- The sheet of a site takes a record: its file can be opened, and all cells can be written. -/
def Takes (site : String) (flat : Record) : Prop :=
  (fileName site).length ≤ maxNameLength ∧ Sheet.IsWritable flat

instance (site : String) (flat : Record) : Decidable (Takes site flat) :=
  inferInstanceAs (Decidable (_ ∧ _))

/-- The folder after some records were written, each under the name of a site; or what can be written
of them. -/
def writeAll (folder : SheetFolder) (records : List (String × Record)) : SheetFolder :=
  records.foldl (fun folder r => (folder.write r.1 r.2).1) folder

theorem isWritableRow_iff {row : List String} :
    isWritableRow row = true ↔ ∀ cell ∈ row, Text.isWritable cell = true := by
  rw [isWritableRow, rowText, Delimited.isWritable_encode_iff (by decide) (by decide),
    List.forall_mem_singleton]

theorem written_eq_rows {flat : Record} (h : Sheet.IsWritable flat) :
    written flat = Sheet.rows flat :=
  List.takeWhile_eq_self_iff.2 fun row hrow => isWritableRow_iff.2 (h row hrow)

section Write

variable (folder : SheetFolder) {site : String} {flat : Record} {file : String}

/-- A file that was extended twice was extended by both texts. -/
theorem extend_extend (text text' : String) :
    (folder.extend file text).extend file text' = folder.extend file (text ++ text') := by
  have hthere : file ∈ (folder.insert file ((folder.get? file).getD "" ++ text)).keys := by
    rw [OrderedMap.keys_insert]
    split
    · assumption
    · simp
  have hread : ((folder.insert file ((folder.get? file).getD "" ++ text)).get? file).getD "" =
      (folder.get? file).getD "" ++ text := by
    rw [OrderedMap.get?_insert, if_pos rfl, Option.getD_some]
  simp only [extend, hread, String.append_assoc]
  apply OrderedMap.eq_of_keys_of_get?
  · rw [OrderedMap.keys_insert, if_pos hthere, OrderedMap.keys_insert, OrderedMap.keys_insert]
  · intro k
    rw [OrderedMap.get?_insert, OrderedMap.get?_insert, OrderedMap.get?_insert]
    split <;> rfl

/-- **Rows behind a text** are written up to the first that cannot be. -/
theorem writeRows_extend (text : String) (rows : List (List String)) :
    (folder.extend file text).writeRows file rows =
      (folder.extend file (text ++ encode .commas (rows.takeWhile isWritableRow)),
        (rows.find? fun row => !isWritableRow row).map fun row => .unwritable (rowText row)) := by
  -- generalized over the text that stands before the rows, which every row makes longer
  induction rows generalizing text with
  | nil =>
    have hnothing : text ++ encode .commas [] = text := String.append_empty
    rw [List.takeWhile_nil, hnothing]
    rfl
  | cons row rest ih =>
    rw [writeRows, ← isWritableRow]
    by_cases hrow : isWritableRow row = true
    · have htext : text ++ (rowText row ++ encode .commas (rest.takeWhile isWritableRow)) =
          text ++ encode .commas (row :: rest.takeWhile isWritableRow) := by
        rw [rowText, ← Delimited.encode_append, List.singleton_append]
      rw [if_pos hrow, extend_extend, ih, List.takeWhile_cons_of_pos hrow,
        List.find?_cons_of_neg (by simp [hrow]), String.append_assoc, htext]
    · have hnothing : text ++ encode .commas [] = text := String.append_empty
      rw [if_neg hrow, List.takeWhile_cons_of_neg hrow, List.find?_cons_of_pos (by simp [hrow]),
        hnothing]
      rfl

theorem write_of_long (h : maxNameLength < (fileName site).length) :
    folder.write site flat = (folder, some (.nameTooLong (fileName site))) := by
  simp only [write, if_pos h]

/-- **Writing a record** whose file can be opened: its rows up to the first that cannot be
written. -/
theorem write_of_short (h : (fileName site).length ≤ maxNameLength) :
    folder.write site flat =
      (folder.extend (fileName site) (encode .commas (written flat)),
        ((Sheet.rows flat).find? fun row => !isWritableRow row).map fun row =>
          .unwritable (rowText row)) := by
  have hempty : "" ++ encode .commas (written flat) = encode .commas (written flat) :=
    String.empty_append
  rw [write, if_neg (Nat.not_lt.2 h), writeRows_extend, ← written, hempty]

/-- **A record that its sheet takes** is written as a whole. -/
theorem write_of_takes (h : Takes site flat) :
    folder.write site flat = (folder.append site flat, none) := by
  have hfirst : (Sheet.rows flat).find? (fun row => !isWritableRow row) = none :=
    List.find?_eq_none.2 fun row hrow => by simp [isWritableRow_iff.2 (h.2 row hrow)]
  rw [write_of_short folder h.1, written_eq_rows h.2, hfirst]
  rfl

/-- **Nothing is wrong with a write** exactly if the sheet takes the record, whatever it holds. -/
theorem write_error_eq_none_iff : (folder.write site flat).2 = none ↔ Takes site flat := by
  constructor
  · intro h
    by_cases hshort : (fileName site).length ≤ maxNameLength
    · rw [write_of_short folder hshort, Option.map_eq_none_iff, List.find?_eq_none] at h
      refine ⟨hshort, fun row hrow => isWritableRow_iff.1 ?_⟩
      simpa using h row hrow
    · rw [write_of_long folder (Nat.lt_of_not_le hshort)] at h
      cases h
  · intro h
    rw [write_of_takes folder h]

theorem writeAll_cons (r : String × Record) (rest : List (String × Record)) :
    folder.writeAll (r :: rest) = (folder.write r.1 r.2).1.writeAll rest :=
  List.foldl_cons ..

end Write

end SheetFolder

end ParcelRecords
