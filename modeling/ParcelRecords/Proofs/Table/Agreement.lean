import Mathlib.Data.List.Nodup
import ParcelRecords.Proofs.OrderedMap.Merge
import ParcelRecords.Proofs.Table.Reads
import ParcelRecords.Proofs.Text.Words

/-!
# Whole reads and single reads of a grid

A grid is read as a whole under its labels, or a row, a column or a cell at a time. The whole read
writes labels in normal form and keeps the last value of a label. A single read compares labels in
lowercase without the blanks at their ends and takes the first one that is equal. Labels that differ
from each other in both senses are unambiguous, and then both find the same cells.

## Main definitions

* `Grid.HasDistinctLabels`: no two labels along an axis are taken for each other
* `Grid.shown?`, `Grid.bulkForm`: a cell as single reads and as whole reads give it
* `Grid.RecordCellAgrees`, `Grid.MatrixCellAgrees`: all ways to read one cell give the same

## Main results

* `Grid.indexOf?_trim_of_distinct`: a distinct label is found where it stands
* `Grid.nodup_keys_horizontalEntries`, `Grid.nodup_keys_verticalEntries`: distinct labels give
  distinct keys
* `Grid.bulk_and_targeted_reads_agree`: the two ways to read agree on all three shapes
-/

namespace ParcelRecords.Grid

variable {g : Grid} {rows : List (List String)}

/-! ## Distinct labels -/

/-- The labels along an axis differ from each other, both as they are compared and in normal form.
-/
def HasDistinctLabels (g : Grid) (axis : Axis) : Prop :=
  (g.labels axis).Pairwise fun first second => ∀ l ∈ first, ∀ m ∈ second,
    labelKey l ≠ labelKey m ∧ Text.normalize l ≠ Text.normalize m

theorem rows_of_table? (hrows : g.table? = some rows) : g.rows = rows := by
  rw [Grid.rows, hrows, Option.getD_some]

theorem getElem?_labels_row {cells : List String} {i : Nat} (hrows : g.table? = some rows)
    (hcells : rows[i]? = some cells) : (g.labels .row)[i]? = some cells.head? := by
  simp [labels, rows_of_table? hrows, hcells]

theorem getElem?_labels_column {header label} {c : Nat}
    (hrows : g.table? = some (header :: rows)) (hlabel : header[c]? = some label) :
    (g.labels .column)[c]? = some (some label) := by
  simp [labels, rows_of_table? hrows, hlabel]

/-- Equal labels along an axis with distinct labels stand at the same position. -/
theorem HasDistinctLabels.eq_of_labelKey_eq {axis : Axis} (h : g.HasDistinctLabels axis)
    {i j : Nat} {l m : String} (hi : (g.labels axis)[i]? = some (some l))
    (hj : (g.labels axis)[j]? = some (some m)) (hkey : labelKey l = labelKey m) : i = j := by
  obtain ⟨hilt, hi⟩ := List.getElem?_eq_some_iff.1 hi
  obtain ⟨hjlt, hj⟩ := List.getElem?_eq_some_iff.1 hj
  have hpairs := List.pairwise_iff_getElem.1 h
  rcases Nat.lt_trichotomy i j with hlt | heq | hlt
  · exact absurd hkey (hpairs i j hilt hjlt hlt l hi m hj).1
  · exact heq
  · exact absurd hkey.symm (hpairs j i hjlt hilt hlt m hj l hi).1

/-- **A distinct label is found where it stands**, also without the blanks at its ends. -/
theorem indexOf?_trim_of_distinct {axis : Axis} (h : g.HasDistinctLabels axis) {i : Nat}
    {label : String} (hlabel : (g.labels axis)[i]? = some (some label)) :
    g.indexOf? axis (Text.trim label) = some i :=
  indexOf?_eq_some_of_unique hlabel (labelKey_trim label)
    fun _ _ hother hkey => h.eq_of_labelKey_eq hother hlabel hkey

theorem resolve?_trim_of_distinct {axis : Axis} (h : g.HasDistinctLabels axis) {i : Nat}
    {label : String} (hlabel : (g.labels axis)[i]? = some (some label)) :
    g.resolve? axis (.label (Text.trim label)) = some (i : Int) := by
  rw [resolve?_label, indexOf?_trim_of_distinct h hlabel]
  rfl

/-! ## Keys of whole reads -/

/-- A key that stands once in a whole read is read back with its value. -/
theorem exists_allData?_of_nodup (hrows : g.table? = some rows)
    (hnodup : ((entries g.shape rows).map Prod.fst).Nodup) :
    ∃ data, g.allData? = some data ∧
      ∀ key value, (key, value) ∈ entries g.shape rows → data.get? key = some value := by
  refine ⟨.ofList (entries g.shape rows), by rw [allData?, hrows]; rfl, fun key value hmem => ?_⟩
  rw [OrderedMap.get?_ofList, OrderedMap.lookup_reverse_of_nodup hnodup]
  exact (OrderedMap.lookup_eq_some_iff hnodup).2 hmem

theorem nodup_keys_horizontalEntries (hrows : g.table? = some rows)
    (h : g.HasDistinctLabels .row) : ((horizontalEntries rows).map Prod.fst).Nodup := by
  rw [HasDistinctLabels, labels, rows_of_table? hrows, List.pairwise_map] at h
  rw [horizontalEntries, List.Nodup, List.pairwise_map, List.pairwise_filterMap]
  refine h.imp fun {first second} hdistinct => ?_
  rintro ⟨key, value⟩ hfirst ⟨key', value'⟩ hsecond
  -- only rows with a second cell give an entry
  rcases first with _ | ⟨l, _ | ⟨_, _⟩⟩
  · cases hfirst
  · cases hfirst
  · rcases second with _ | ⟨m, _ | ⟨_, _⟩⟩
    · cases hsecond
    · cases hsecond
    · cases hfirst
      cases hsecond
      exact (hdistinct l rfl m rfl).2

/-- Where two texts are joined by a separator and the same comes out, the parts are the same, or one
first part goes on over the separator and the second parts make up for it. -/
theorem append_cons_eq_append_cons_iff {α : Type} {sep : α} {l m d e : List α} :
    l ++ sep :: d = m ++ sep :: e ↔ l = m ∧ d = e ∨
      (∃ between, m = l ++ sep :: between ∧ d = between ++ sep :: e) ∨
        ∃ between, l = m ++ sep :: between ∧ e = between ++ sep :: d := by
  constructor
  · intro h
    rcases List.append_eq_append_iff.1 h with ⟨between, hm, hrest⟩ | ⟨between, hl, hrest⟩
    · rcases List.cons_eq_append_iff.1 hrest with ⟨rfl, heq⟩ | ⟨between, rfl, hd⟩
      · exact .inl ⟨by simpa using hm.symm, (List.cons.inj heq).2.symm⟩
      · exact .inr (.inl ⟨between, hm, hd⟩)
    · rcases List.cons_eq_append_iff.1 hrest with ⟨rfl, heq⟩ | ⟨between, rfl, he⟩
      · exact .inl ⟨by simpa using hl, (List.cons.inj heq).2⟩
      · exact .inr (.inr ⟨between, hl, he⟩)
  · rintro (⟨rfl, rfl⟩ | ⟨between, rfl, rfl⟩ | ⟨between, rfl, rfl⟩) <;> simp

/-- What follows the last separator of a list, and what stands in front of it, are determined. -/
theorem append_cons_inj_of_not_mem {α : Type} {sep : α} {l m d e : List α} (hd : sep ∉ d)
    (he : sep ∉ e) (h : l ++ sep :: d = m ++ sep :: e) : l = m ∧ d = e := by
  rcases append_cons_eq_append_cons_iff.1 h with hsame | ⟨between, -, rfl⟩ | ⟨between, -, rfl⟩
  · exact hsame
  · exact absurd (List.mem_append_right between List.mem_cons_self) hd
  · exact absurd (List.mem_append_right between List.mem_cons_self) he

/-- A label with a number tells the label and the number: digits are no underscores. -/
theorem numbered_inj {l m : String} {i j : Nat}
    (h : l ++ "_" ++ toString i = m ++ "_" ++ toString j) : l = m ∧ i = j := by
  have hchars : l.toList ++ '_' :: Nat.toDigits 10 i = m.toList ++ '_' :: Nat.toDigits 10 j := by
    simpa [Nat.toString_eq_ofList_toDigits] using congrArg String.toList h
  obtain ⟨hlabel, hdigits⟩ := append_cons_inj_of_not_mem Nat.underscore_not_in_toDigits
    Nat.underscore_not_in_toDigits hchars
  refine ⟨String.toList_inj.1 hlabel, ?_⟩
  have hvalues := congrArg (Nat.ofDigitChars 10 · 0) hdigits
  simpa using hvalues

theorem keys_recordEntries (labels : List String) (number : Nat) (cells : List String) :
    (recordEntries labels number cells).map Prod.fst =
      labels.map (· ++ "_" ++ toString number) := by
  refine List.ext_getElem (by simp [recordEntries]) fun c _ _ => ?_
  simp [recordEntries]

/-- **Keys of records**: distinct labels with the numbers of the records are distinct keys. -/
theorem nodup_keys_verticalEntries (hrows : g.table? = some rows)
    (h : g.HasDistinctLabels .column) : ((verticalEntries rows).map Prod.fst).Nodup := by
  cases rows with
  | nil => exact List.nodup_nil
  | cons header records =>
    rw [HasDistinctLabels, labels, rows_of_table? hrows, List.headD_cons, List.pairwise_map] at h
    have hlabels : (header.map Text.normalize).Nodup :=
      List.pairwise_map.2 (h.imp fun hdistinct => (hdistinct _ rfl _ rfl).2)
    rw [verticalEntries, List.map_flatten, List.nodup_flatten]
    constructor
    · -- within a record the labels differ
      intro keys hkeys
      obtain ⟨entries, hentries, rfl⟩ := List.mem_map.1 hkeys
      obtain ⟨number, hlt, rfl⟩ := List.mem_mapIdx.1 hentries
      rw [keys_recordEntries]
      exact hlabels.map fun l m heq => (numbered_inj heq).1
    · -- between records the numbers differ
      rw [List.pairwise_iff_getElem]
      intro i j hi hj hlt key hfirst hsecond
      simp only [List.getElem_map, List.getElem_mapIdx, keys_recordEntries] at hfirst hsecond
      obtain ⟨l, -, rfl⟩ := List.mem_map.1 hfirst
      obtain ⟨m, -, heq⟩ := List.mem_map.1 hsecond
      exact absurd (numbered_inj heq).2 (by omega)

/-! ## Entries of whole reads -/

theorem mem_horizontalEntries {label value : String} {rest : List String}
    (hrow : label :: value :: rest ∈ rows) :
    (Text.normalize label, Text.normalize value) ∈ horizontalEntries rows :=
  List.mem_filterMap.2 ⟨_, hrow, rfl⟩

theorem mem_verticalEntries {header cells : List String} {records : List (List String)}
    {i c : Nat} {label : String} (hcells : records[i]? = some cells)
    (hlabel : header[c]? = some label) :
    (Text.normalize label ++ "_" ++ toString i, cellValue cells c) ∈
      verticalEntries (header :: records) := by
  obtain ⟨hi, rfl⟩ := List.getElem?_eq_some_iff.1 hcells
  obtain ⟨hc, rfl⟩ := List.getElem?_eq_some_iff.1 hlabel
  refine List.mem_flatten.2 ⟨_, List.mem_mapIdx.2 ⟨i, hi, rfl⟩, ?_⟩
  exact List.mem_mapIdx.2 ⟨c, by simpa using hc, by simp⟩

theorem mem_matrixEntries {header cells : List String} {records : List (List String)}
    {i c : Nat} {rowLabel label : String} (hcells : records[i]? = some cells)
    (hrow : cells.head? = some rowLabel) (hlabel : header[c + 1]? = some label) :
    (Text.normalize rowLabel ++ "_" ++ Text.normalize label, cellValue cells (c + 1)) ∈
      matrixEntries (header :: records) := by
  obtain ⟨hc, rfl⟩ := List.getElem?_eq_some_iff.1 hlabel
  refine List.mem_flatMap.2 ⟨cells, List.mem_of_getElem? hcells, ?_⟩
  refine List.mem_mapIdx.2 ⟨c, by simp; omega, ?_⟩
  simp [List.headD_eq_head?_getD, hrow]

/-! ## Reads of one cell -/

/-- A cell as single reads give it: without the blanks at its ends, and none if the row does not
reach so far. -/
def shown? (cells : List String) (c : Nat) : Option String :=
  cells[c]?.map Text.trim

/-- A cell as whole reads give it: in normal form, with a text in the place of none. -/
def bulkForm (cell? : Option String) : String :=
  (cell?.map Text.normalize).getD missingCell

/-- **One cell, read both ways**: the whole read has the normal form of what is shown. -/
theorem cellValue_eq_bulkForm (cells : List String) (c : Nat) :
    cellValue cells c = bulkForm (shown? cells c) := by
  rw [cellValue, shown?]
  cases cells[c]? with
  | none => rfl
  | some cell => exact (Text.normalize_trim cell).symm

theorem cellAt?_eq_shown? {cells : List String} {i : Nat} (hrows : g.table? = some rows)
    (hcells : rows[i]? = some cells) (c : Nat) : g.cellAt? (i : Int) (c : Int) = shown? cells c := by
  rw [cellAt?_natCast, rows_of_table? hrows, hcells]
  rfl

/-- A column that a label names, below the rows that are no part of it. -/
theorem columnTexts?_trim_of_distinct {header cells : List String} {c i : Nat} {label : String}
    (hrows : g.table? = some (header :: rows)) (h : g.HasDistinctLabels .column)
    (hlabel : header[c]? = some label)
    (hcells : (header :: rows)[g.columnStart + i]? = some cells) :
    ∃ texts, g.columnTexts? (.label (Text.trim label)) = some texts ∧
      texts[i]? = some ((shown? cells c).getD "") := by
  have hresolve := resolve?_trim_of_distinct h (getElem?_labels_column hrows hlabel)
  refine ⟨_, columnTexts?_of_resolve hresolve (Int.natCast_nonneg c), ?_⟩
  rw [List.getElem?_map, List.getElem?_drop, rows_of_table? hrows, hcells, Option.map_some,
    Int.toNat_natCast, shown?]
  cases hcell : cells[c]? with
  | none => simp [Text.trim_empty]
  | some cell => simp

/-- A row that a label names, behind the cells that are no part of it. -/
theorem rowTexts?_trim_of_distinct {cells : List String} {i c : Nat} {label : String}
    (hrows : g.table? = some rows) (h : g.HasDistinctLabels .row)
    (hcells : rows[i]? = some cells) (hlabel : cells.head? = some label) :
    ∃ texts, g.rowTexts? (.label (Text.trim label)) = some texts ∧
      texts[c]? = shown? cells (g.rowStart + c) := by
  have hlabels : (g.labels .row)[i]? = some (some label) := by
    rw [getElem?_labels_row hrows hcells, hlabel]
  have hresolve := resolve?_trim_of_distinct h hlabels
  refine ⟨(cells.drop g.rowStart).map Text.trim, ?_, ?_⟩
  · rw [rowTexts?_of_resolve hresolve, itemAt?_natCast, rows_of_table? hrows, hcells,
      Option.map_some]
  · rw [List.getElem?_map, List.getElem?_drop, shown?]

/-- The ways to read a record's cell under a label agree with each other. -/
structure RecordCellAgrees (g : Grid) (data : OrderedMap String) (label : String) (i : Nat)
    (cell? : Option String) : Prop where
  whole : data.get? (Text.normalize label ++ "_" ++ toString i) = some (bulkForm cell?)
  column : ∃ texts, g.columnTexts? (.label (Text.trim label)) = some texts ∧
    texts[i]? = some (cell?.getD "")
  cell : i = 0 → g.cellByLabel? (.label (Text.trim label)) none = cell?

/-- The ways to read a cell of a matrix agree with each other; `i` and `c` count the rows below and
the columns beside the labels. -/
structure MatrixCellAgrees (g : Grid) (data : OrderedMap String) (rowLabel label : String)
    (i c : Nat) (cell? : Option String) : Prop where
  whole : data.get? (Text.normalize rowLabel ++ "_" ++ Text.normalize label) =
    some (bulkForm cell?)
  row : ∃ texts, g.rowTexts? (.label (Text.trim rowLabel)) = some texts ∧ texts[c]? = cell?
  column : ∃ texts, g.columnTexts? (.label (Text.trim label)) = some texts ∧
    texts[i + 1]? = some (cell?.getD "")
  cell : g.cellByLabel? (.label (Text.trim rowLabel)) (some (.label (Text.trim label))) = cell?

/-! ## Agreement -/

/-- Beside distinct labels, the whole read has the normal form of each value. -/
theorem horizontal_reads_agree (hshape : g.shape = .horizontal) (hrows : g.table? = some rows)
    (h : g.HasDistinctLabels .row) :
    ∃ data, g.allData? = some data ∧
      ∀ label value rest, label :: value :: rest ∈ rows →
        ∃ cell, g.cellByLabel? (.label (Text.trim label)) none = some cell ∧
          data.get? (Text.normalize label) = some (Text.normalize cell) := by
  have hkeys : ((entries g.shape rows).map Prod.fst).Nodup := by
    rw [hshape]
    exact nodup_keys_horizontalEntries hrows h
  obtain ⟨data, hdata, hread⟩ := exists_allData?_of_nodup hrows hkeys
  refine ⟨data, hdata, fun label value rest hmem => ⟨Text.trim value, ?_, ?_⟩⟩
  · obtain ⟨i, hi⟩ := List.mem_iff_getElem?.1 hmem
    have hresolve := resolve?_trim_of_distinct h (getElem?_labels_row hrows hi)
    have hcell : g.cellAt? (i : Int) 1 = some (Text.trim value) := cellAt?_eq_shown? hrows hi 1
    simp [cellByLabel?, hrows, hshape, hresolve, hcell]
  · rw [Text.normalize_trim]
    exact hread _ _ (by rw [hshape]; exact mem_horizontalEntries hmem)

/-- Under distinct labels, the whole read has the normal form of each cell of each record. -/
theorem vertical_reads_agree {header : List String} {records : List (List String)}
    (hshape : g.shape = .vertical) (hrows : g.table? = some (header :: records))
    (h : g.HasDistinctLabels .column) :
    ∃ data, g.allData? = some data ∧
      ∀ c label i cells, header[c]? = some label → records[i]? = some cells →
        g.RecordCellAgrees data label i (shown? cells c) := by
  have hkeys : ((entries g.shape (header :: records)).map Prod.fst).Nodup := by
    rw [hshape]
    exact nodup_keys_verticalEntries hrows h
  have hstart : g.columnStart = 1 := by rw [columnStart, if_pos hshape]
  obtain ⟨data, hdata, hread⟩ := exists_allData?_of_nodup hrows hkeys
  refine ⟨data, hdata, fun c label i cells hlabel hcells => ⟨?_, ?_, fun hi => ?_⟩⟩
  · rw [← cellValue_eq_bulkForm]
    exact hread _ _ (by rw [hshape]; exact mem_verticalEntries hcells hlabel)
  · refine columnTexts?_trim_of_distinct hrows h hlabel ?_
    rw [hstart, Nat.add_comm, List.getElem?_cons_succ, hcells]
  · subst hi
    have hresolve := resolve?_trim_of_distinct h (getElem?_labels_column hrows hlabel)
    have hcell : g.cellAt? 1 (c : Int) = shown? cells c :=
      cellAt?_eq_shown? (i := 1) hrows hcells c
    simp [cellByLabel?, hrows, hshape, hresolve, hcell]

/-- Between distinct labels on both axes that give distinct keys, the whole read has the normal form
of each cell. -/
theorem matrix_reads_agree {header : List String} {records : List (List String)}
    (hshape : g.shape = .matrix) (hrows : g.table? = some (header :: records))
    (hrow : g.HasDistinctLabels .row) (hcolumn : g.HasDistinctLabels .column)
    (hkeys : ((matrixEntries (header :: records)).map Prod.fst).Nodup) :
    ∃ data, g.allData? = some data ∧
      ∀ c label i cells rowLabel, header[c + 1]? = some label → records[i]? = some cells →
        cells.head? = some rowLabel →
          g.MatrixCellAgrees data rowLabel label i c (shown? cells (c + 1)) := by
  have hkeys' : ((entries g.shape (header :: records)).map Prod.fst).Nodup := by
    rw [hshape]
    exact hkeys
  have hrowStart : g.rowStart = 1 := by rw [rowStart, if_pos hshape]
  have hcolumnStart : g.columnStart = 0 := by
    rw [columnStart, hshape]
    rfl
  obtain ⟨data, hdata, hread⟩ := exists_allData?_of_nodup hrows hkeys'
  refine ⟨data, hdata, fun c label i cells rowLabel hlabel hcells hhead => ?_⟩
  -- the header is a row like the others, so that records stand one place further down
  have hcells' : (header :: records)[i + 1]? = some cells := hcells
  have hrowLabel : (g.labels .row)[i + 1]? = some (some rowLabel) := by
    rw [getElem?_labels_row hrows hcells', hhead]
  have hresolveRow := resolve?_trim_of_distinct hrow hrowLabel
  have hresolveColumn := resolve?_trim_of_distinct hcolumn (getElem?_labels_column hrows hlabel)
  refine ⟨?_, ?_, ?_, ?_⟩
  · rw [← cellValue_eq_bulkForm]
    exact hread _ _ (by rw [hshape]; exact mem_matrixEntries hcells hhead hlabel)
  · have hread := rowTexts?_trim_of_distinct (c := c) hrows hrow hcells' hhead
    rwa [hrowStart, Nat.add_comm] at hread
  · refine columnTexts?_trim_of_distinct hrows hcolumn hlabel ?_
    rw [hcolumnStart, Nat.zero_add, hcells']
  · have hcell := cellAt?_eq_shown? hrows hcells' (c + 1)
    simpa [cellByLabel?, hrows, hshape, hresolveRow, hresolveColumn] using hcell

/-- **Whole reads and single reads agree** on unambiguous labels, for every shape and all rows, also
where a row is shorter than the others. -/
theorem bulk_and_targeted_reads_agree :
    (∀ rows, (⟨.horizontal, some rows⟩ : Grid).HasDistinctLabels .row →
      ∃ data, (⟨.horizontal, some rows⟩ : Grid).allData? = some data ∧
        ∀ label value rest, label :: value :: rest ∈ rows →
          ∃ cell, (⟨.horizontal, some rows⟩ : Grid).cellByLabel? (.label (Text.trim label)) none =
              some cell ∧
            data.get? (Text.normalize label) = some (Text.normalize cell)) ∧
    (∀ header records,
      (⟨.vertical, some (header :: records)⟩ : Grid).HasDistinctLabels .column →
      ∃ data, (⟨.vertical, some (header :: records)⟩ : Grid).allData? = some data ∧
        ∀ c label i cells, header[c]? = some label → records[i]? = some cells →
          (⟨.vertical, some (header :: records)⟩ : Grid).RecordCellAgrees data label i
            (shown? cells c)) ∧
    ∀ header records, (⟨.matrix, some (header :: records)⟩ : Grid).HasDistinctLabels .row →
      (⟨.matrix, some (header :: records)⟩ : Grid).HasDistinctLabels .column →
      ((matrixEntries (header :: records)).map Prod.fst).Nodup →
      ∃ data, (⟨.matrix, some (header :: records)⟩ : Grid).allData? = some data ∧
        ∀ c label i cells rowLabel, header[c + 1]? = some label → records[i]? = some cells →
          cells.head? = some rowLabel →
            (⟨.matrix, some (header :: records)⟩ : Grid).MatrixCellAgrees data rowLabel label i c
              (shown? cells (c + 1)) :=
  ⟨fun _ h => horizontal_reads_agree rfl rfl h, fun _ _ h => vertical_reads_agree rfl rfl h,
    fun _ _ hrow hcolumn hkeys => matrix_reads_agree rfl rfl hrow hcolumn hkeys⟩

/-- A table of each shape, the last two with a row that does not reach the last column: its cell is
missing in every read. -/
theorem bulk_and_targeted_reads_agree_short_rows :
    let beside : Grid := ⟨.horizontal, some [["Owner"], [" Land  Use ", "Farm"]]⟩
    let below : Grid := ⟨.vertical, some [["Year", " Tax  Due "], ["2020"], ["2021", "5"]]⟩
    let both : Grid := ⟨.matrix, some [["", "2020", "2021"], ["Land", "1"]]⟩
    beside.HasDistinctLabels .row ∧ below.HasDistinctLabels .column ∧
      both.HasDistinctLabels .row ∧ both.HasDistinctLabels .column ∧
      (∃ data, beside.allData? = some data ∧
        ∃ cell, beside.cellByLabel? (.label "Land  Use") none = some cell ∧
          data.get? "Land Use" = some (Text.normalize cell)) ∧
      (∃ data, below.allData? = some data ∧ below.RecordCellAgrees data " Tax  Due " 0 none ∧
        below.RecordCellAgrees data "Year" 1 (some "2021")) ∧
      ∃ data, both.allData? = some data ∧ both.MatrixCellAgrees data "Land" "2020" 0 0 (some "1") ∧
        both.MatrixCellAgrees data "Land" "2021" 0 1 none := by
  intro beside below both
  obtain ⟨hhorizontal, hvertical, hmatrix⟩ := bulk_and_targeted_reads_agree
  have hbeside : beside.HasDistinctLabels .row := by
    simp only [HasDistinctLabels]
    decide +kernel
  have hbelow : below.HasDistinctLabels .column := by
    simp only [HasDistinctLabels]
    decide +kernel
  have hbothRow : both.HasDistinctLabels .row := by
    simp only [HasDistinctLabels]
    decide +kernel
  have hbothColumn : both.HasDistinctLabels .column := by
    simp only [HasDistinctLabels]
    decide +kernel
  refine ⟨hbeside, hbelow, hbothRow, hbothColumn, ?_, ?_, ?_⟩
  · obtain ⟨data, hdata, hcells⟩ := hhorizontal _ hbeside
    exact ⟨data, hdata, hcells " Land  Use " "Farm" [] (by simp)⟩
  · obtain ⟨data, hdata, hcells⟩ := hvertical _ _ hbelow
    exact ⟨data, hdata, hcells 1 _ 0 _ rfl rfl, hcells 0 _ 1 _ rfl rfl⟩
  · obtain ⟨data, hdata, hcells⟩ := hmatrix _ _ hbothRow hbothColumn (by decide +kernel)
    exact ⟨data, hdata, hcells 0 _ 0 _ _ rfl rfl rfl, hcells 1 _ 0 _ _ rfl rfl rfl⟩

end ParcelRecords.Grid
