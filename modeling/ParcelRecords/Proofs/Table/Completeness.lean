import Mathlib.Data.Finset.Prod
import ParcelRecords.Proofs.OrderedMap.LastWrite
import ParcelRecords.Proofs.Table.Agreement

/-!
# Whole tables are complete

A table that is read as a whole should give a column for every cell. Under a header row the key of a
cell is its label with the number of the record. The number stands behind the last underscore, so
that no two records share a key whatever the labels are, and only labels that are equal do. In a
matrix the key is the row label, an underscore and the column label, and both labels are free texts:
where a row label goes on behind an underscore with what a column label begins with, two cells have
the same key although all labels differ, and the later one replaces the other.

## Main definitions

* `Grid.recordKey`, `Grid.matrixKey`: the keys of cells
* `Grid.KeysClash`: labels of a matrix that give two cells one key

## Main results

* `Grid.records_complete`: a table of records has one column for every label and record
* `Grid.nodup_keys_matrixEntries_iff`: distinct labels give distinct keys exactly if none clash
* `Grid.matrix_cells_kept`: a matrix loses a cell exactly if keys clash
-/

namespace ParcelRecords

namespace Grid

/-- What a whole read gives for a cell: its normal form, or the text in place of none. -/
theorem cellValue_eq (cells : List String) (c : Nat) :
    cellValue cells c = (cells[c]?.map Text.normalize).getD "N/A" := by
  rw [cellValue]
  cases cells[c]? <;> rfl

/-! ## Records -/

section Records

variable {rows : List (List String)} {labels : List String}

/-- The key of a record's cell under a label. -/
def recordKey (label : String) (i : Nat) : String :=
  label ++ "_" ++ toString i

/-- **Keys of records tell** the label and the record, also where labels hold underscores and
digits. -/
theorem recordKey_inj {label other : String} {i j : Nat} :
    recordKey label i = recordKey other j ↔ label = other ∧ i = j := by
  constructor
  · exact numbered_inj
  · rintro ⟨rfl, rfl⟩
    rfl

theorem map_fst_recordEntries (labels : List String) (i : Nat) (cells : List String) :
    (recordEntries labels i cells).map Prod.fst = labels.map (recordKey · i) :=
  keys_recordEntries labels i cells

/-- In a record the last column under a label is read. -/
theorem lookup_reverse_recordEntries {label : String} {c : Nat} (h : IsLastAt labels label c)
    (i : Nat) (cells : List String) :
    (recordEntries labels i cells).reverse.lookup (recordKey label i) =
      some (cellValue cells c) := by
  have hinj : Function.Injective (recordKey · i) := fun _ _ heq => (recordKey_inj.1 heq).1
  have hkeys : IsLastAt ((recordEntries labels i cells).map Prod.fst) (recordKey label i) c := by
    rw [map_fst_recordEntries]
    exact h.map hinj
  apply hkeys.lookup_reverse
  rw [recordEntries, List.getElem?_mapIdx, h.1]
  rfl

theorem verticalEntries_eq (rows : List (List String)) :
    verticalEntries rows =
      (rows.tail.mapIdx (recordEntries ((rows.headD []).map Text.normalize))).flatten := by
  cases rows <;> rfl

/-- The keys of a table of records are those of all labels in all records. -/
theorem mem_keys_verticalEntries {key : String} :
    key ∈ (verticalEntries rows).map Prod.fst ↔
      ∃ label ∈ (rows.headD []).map Text.normalize, ∃ i < rows.tail.length,
        key = recordKey label i := by
  rw [verticalEntries_eq, List.map_flatten, List.mem_flatten]
  constructor
  · rintro ⟨keys, hkeys, hmem⟩
    obtain ⟨es, hes, rfl⟩ := List.mem_map.1 hkeys
    obtain ⟨i, hi, rfl⟩ := List.mem_mapIdx.1 hes
    rw [map_fst_recordEntries] at hmem
    obtain ⟨label, hlabel, rfl⟩ := List.mem_map.1 hmem
    exact ⟨label, hlabel, i, hi, rfl⟩
  · rintro ⟨label, hlabel, i, hi, rfl⟩
    refine ⟨_, List.mem_map_of_mem (List.mem_mapIdx.2 ⟨i, hi, rfl⟩), ?_⟩
    rw [map_fst_recordEntries]
    exact List.mem_map_of_mem hlabel

/-- As many keys as there are pairs of a label and a record. -/
theorem card_keys_verticalEntries (rows : List (List String)) :
    ((verticalEntries rows).map Prod.fst).toFinset.card =
      ((rows.headD []).map Text.normalize).toFinset.card * rows.tail.length := by
  have hkeys : ((verticalEntries rows).map Prod.fst).toFinset =
      (((rows.headD []).map Text.normalize).toFinset ×ˢ Finset.range rows.tail.length).image
        fun p => recordKey p.1 p.2 := by
    ext key
    rw [List.mem_toFinset, mem_keys_verticalEntries, Finset.mem_image]
    constructor
    · rintro ⟨label, hlabel, i, hi, rfl⟩
      exact ⟨(label, i), Finset.mk_mem_product (List.mem_toFinset.2 hlabel)
        (Finset.mem_range.2 hi), rfl⟩
    · rintro ⟨⟨label, i⟩, hmem, rfl⟩
      obtain ⟨hlabel, hi⟩ := Finset.mem_product.1 hmem
      exact ⟨label, List.mem_toFinset.1 hlabel, i, Finset.mem_range.1 hi, rfl⟩
  have hinj : Function.Injective fun p : String × Nat => recordKey p.1 p.2 := by
    rintro ⟨label, i⟩ ⟨other, j⟩ heq
    obtain ⟨rfl, rfl⟩ := recordKey_inj.1 heq
    rfl
  rw [hkeys, Finset.card_image_of_injective _ hinj, Finset.card_product, Finset.card_range]

/-- **Every cell of a record is read** under the last of equal labels. -/
theorem get?_verticalEntries {label : String} {c i : Nat} {cells : List String}
    (hlabel : IsLastAt ((rows.headD []).map Text.normalize) label c)
    (hcells : rows.tail[i]? = some cells) :
    (OrderedMap.ofList (verticalEntries rows)).get? (recordKey label i) =
      some (cellValue cells c) := by
  rw [OrderedMap.get?_ofList, verticalEntries_eq]
  refine lookup_reverse_flatten (i := i) ?_ (lookup_reverse_recordEntries hlabel i cells) ?_
  · rw [List.getElem?_mapIdx, hcells, Option.map_some]
  · -- a later record has another number in all its keys
    intro j fs hj hfs hmem
    rw [List.getElem?_mapIdx] at hfs
    obtain ⟨later, -, rfl⟩ := Option.map_eq_some_iff.1 hfs
    rw [map_fst_recordEntries] at hmem
    obtain ⟨other, -, heq⟩ := List.mem_map.1 hmem
    have hij := (recordKey_inj.1 heq).2
    omega

/-- **A table of records is complete**: it has one column for every label that differs from the
others in normal form and every record, and no other column. No two of them share a key. The column
of a label and a record has the cell of the last column under that label, or a text in the place of
none. -/
theorem records_complete (rows : List (List String)) :
    let labels := (rows.headD []).map Text.normalize
    ∃ data, (⟨.vertical, some rows⟩ : Grid).allData? = some data ∧
      data.entries.length = labels.toFinset.card * rows.tail.length ∧
      (∀ label i other j, recordKey label i = recordKey other j ↔ label = other ∧ i = j) ∧
      (∀ key, key ∈ data.keys ↔ ∃ label ∈ labels, ∃ i < rows.tail.length,
        key = recordKey label i) ∧
      ∀ label ∈ labels, ∀ i cells, rows.tail[i]? = some cells →
        ∃ c, IsLastAt labels label c ∧
          data.get? (recordKey label i) = some ((cells[c]?.map Text.normalize).getD "N/A") := by
  intro labels
  refine ⟨.ofList (verticalEntries rows), rfl, ?_, fun _ _ _ _ => recordKey_inj, fun key => ?_,
    fun label hlabel i cells hcells => ?_⟩
  · rw [OrderedMap.length_ofList, card_keys_verticalEntries]
  · rw [OrderedMap.mem_keys_ofList, mem_keys_verticalEntries]
  · obtain ⟨c, hc⟩ := exists_isLastAt hlabel
    refine ⟨c, hc, ?_⟩
    rw [get?_verticalEntries hc hcells, cellValue_eq]

/-- Two headers that differ by an underscore and a digit, and one that stands twice: the key of the
first in the second record begins like those of the second header, and its cell is missing in the
last column under it. -/
theorem records_complete_header_with_digit :
    let rows := [["A", "A_1", " A "], ["1", "2", "3"], ["4"]]
    ∃ data, (⟨.vertical, some rows⟩ : Grid).allData? = some data ∧ data.entries.length = 4 ∧
      data.get? "A_1" = some "N/A" ∧ data.get? "A_1_0" = some "2" := by
  intro rows
  have hlabels : (rows.headD []).map Text.normalize = ["A", "A_1", "A"] := by decide +kernel
  obtain ⟨data, hdata, hlength, -, -, hread⟩ := records_complete rows
  rw [hlabels] at hlength hread
  refine ⟨data, hdata, hlength, ?_, ?_⟩
  · obtain ⟨c, hc, hget⟩ := hread "A" (by simp) 1 ["4"] rfl
    obtain rfl := hc.unique (isLastAt_append_cons ["A", "A_1"] (by simp))
    exact hget
  · obtain ⟨c, hc, hget⟩ := hread "A_1" (by simp) 0 ["1", "2", "3"] rfl
    obtain rfl := hc.unique (isLastAt_append_cons ["A"] (by simp))
    exact hget

end Records

/-! ## Matrices -/

section Matrices

variable {header : List String} {records : List (List String)} {rowLabels labels : List String}

/-- The label of a row; a row without cells has an empty one. -/
def rowLabel (cells : List String) : String :=
  Text.normalize (cells.headD "")

/-- The labels above the columns; the first cell of the header is none of them. -/
def columnLabels (header : List String) : List String :=
  (header.drop 1).map Text.normalize

/-- The key of a cell between a row label and a column label. -/
def matrixKey (row column : String) : String :=
  row ++ "_" ++ column

/-- Labels that give two cells one key: a row label goes on, behind an underscore, in another row
label, and what it goes on with stands, with an underscore behind it, before a column label in
another column label. -/
def KeysClash (rowLabels labels : List String) : Prop :=
  ∃ row ∈ rowLabels, ∃ column ∈ labels, ∃ middle,
    row ++ "_" ++ middle ∈ rowLabels ∧ middle ++ "_" ++ column ∈ labels

/-- **Two cells have one key** exactly if their labels are the same, or one row label goes on in the
other and the column labels make up for it. -/
theorem matrixKey_eq_iff {row column row' column' : String} :
    matrixKey row column = matrixKey row' column' ↔ row = row' ∧ column = column' ∨
      (∃ middle, row' = row ++ "_" ++ middle ∧ column = middle ++ "_" ++ column') ∨
        ∃ middle, row = row' ++ "_" ++ middle ∧ column' = middle ++ "_" ++ column := by
  constructor
  · intro h
    have hchars : row.toList ++ '_' :: column.toList = row'.toList ++ '_' :: column'.toList := by
      simpa [matrixKey] using congrArg String.toList h
    rcases append_cons_eq_append_cons_iff.1 hchars with
      ⟨hrow, hcolumn⟩ | ⟨middle, hrow, hcolumn⟩ | ⟨middle, hrow, hcolumn⟩
    · exact .inl ⟨String.toList_inj.1 hrow, String.toList_inj.1 hcolumn⟩
    · refine .inr (.inl ⟨String.ofList middle, String.toList_inj.1 ?_, String.toList_inj.1 ?_⟩)
      · simpa using hrow
      · simpa using hcolumn
    · refine .inr (.inr ⟨String.ofList middle, String.toList_inj.1 ?_, String.toList_inj.1 ?_⟩)
      · simpa using hrow
      · simpa using hcolumn
  · rintro (⟨rfl, rfl⟩ | ⟨middle, rfl, rfl⟩ | ⟨middle, rfl, rfl⟩) <;>
      simp [matrixKey, String.append_assoc]

/-- Where no labels clash, the key of a cell tells its labels. -/
theorem eq_of_matrixKey_eq (h : ¬KeysClash rowLabels labels) {row row' column column' : String}
    (hrow : row ∈ rowLabels) (hrow' : row' ∈ rowLabels) (hcolumn : column ∈ labels)
    (hcolumn' : column' ∈ labels) (heq : matrixKey row column = matrixKey row' column') :
    row = row' ∧ column = column' := by
  rcases matrixKey_eq_iff.1 heq with hsame | ⟨middle, rfl, rfl⟩ | ⟨middle, rfl, rfl⟩
  · exact hsame
  · exact absurd ⟨row, hrow, column', hcolumn', middle, hrow', hcolumn⟩ h
  · exact absurd ⟨row', hrow', column, hcolumn, middle, hrow, hcolumn'⟩ h

theorem map_fst_matrixRowEntries (labels cells : List String) :
    (matrixRowEntries labels cells).map Prod.fst = labels.map (matrixKey (rowLabel cells)) := by
  refine List.ext_getElem (by simp [matrixRowEntries]) fun c _ _ => ?_
  simp [matrixRowEntries, matrixKey, rowLabel]

theorem matrixEntries_cons (header : List String) (records : List (List String)) :
    matrixEntries (header :: records) =
      (records.map (matrixRowEntries (columnLabels header))).flatten :=
  List.flatMap_def

/-- The keys of a matrix, row by row. -/
theorem map_fst_matrixEntries (header : List String) (records : List (List String)) :
    (matrixEntries (header :: records)).map Prod.fst =
      (records.map rowLabel ×ˢ columnLabels header).map fun p => matrixKey p.1 p.2 := by
  rw [matrixEntries_cons]
  induction records with
  | nil => rfl
  | cons cells rest ih =>
    rw [List.map_cons, List.flatten_cons, List.map_append, ih, map_fst_matrixRowEntries,
      List.map_cons, List.product_cons, List.map_append, List.map_map]
    rfl

theorem length_matrixEntries (header : List String) (records : List (List String)) :
    (matrixEntries (header :: records)).length = (columnLabels header).length * records.length := by
  have hlength := congrArg List.length (map_fst_matrixEntries header records)
  rwa [List.length_map, List.length_map, List.length_product, List.length_map, Nat.mul_comm]
    at hlength

/-- **Distinct labels give distinct keys** exactly if none of them clash. -/
theorem nodup_keys_matrixEntries_iff (hrows : (records.map rowLabel).Nodup)
    (hcolumns : (columnLabels header).Nodup) :
    ((matrixEntries (header :: records)).map Prod.fst).Nodup ↔
      ¬KeysClash (records.map rowLabel) (columnLabels header) := by
  rw [map_fst_matrixEntries, List.nodup_map_iff_inj_on (hrows.product hcolumns)]
  constructor
  · rintro hinj ⟨row, hrow, column, hcolumn, middle, hrow', hcolumn'⟩
    have hkeys : matrixKey row (middle ++ "_" ++ column) =
        matrixKey (row ++ "_" ++ middle) column :=
      matrixKey_eq_iff.2 (.inr (.inl ⟨middle, rfl, rfl⟩))
    have hpairs := hinj _ (List.mem_product.2 ⟨hrow, hcolumn'⟩) _
      (List.mem_product.2 ⟨hrow', hcolumn⟩) hkeys
    -- but a row label does not go on in itself
    have hself : row = row ++ "_" ++ middle := congrArg Prod.fst hpairs
    have hlength := congrArg String.length hself
    have hone : "_".length = 1 := rfl
    rw [String.length_append, String.length_append, hone] at hlength
    omega
  · rintro hclash ⟨row, column⟩ hmem ⟨row', column'⟩ hmem' heq
    obtain ⟨hrow, hcolumn⟩ := List.mem_product.1 hmem
    obtain ⟨hrow', hcolumn'⟩ := List.mem_product.1 hmem'
    obtain ⟨rfl, rfl⟩ := eq_of_matrixKey_eq hclash hrow hrow' hcolumn hcolumn' heq
    rfl

/-- **A cell of a matrix is read** unless a later row takes its key. -/
theorem get?_matrixEntries (hcolumns : (columnLabels header).Nodup) {i c : Nat}
    {cells : List String} {label : String} (hcells : records[i]? = some cells)
    (hlabel : (columnLabels header)[c]? = some label)
    (hlater : ∀ j later, i < j → records[j]? = some later → ∀ other ∈ columnLabels header,
      matrixKey (rowLabel later) other ≠ matrixKey (rowLabel cells) label) :
    (OrderedMap.ofList (matrixEntries (header :: records))).get?
        (matrixKey (rowLabel cells) label) =
      some (cellValue cells (c + 1)) := by
  have hinj : Function.Injective (matrixKey (rowLabel cells)) := fun column column' heq => by
    simpa [matrixKey] using heq
  have hrow : IsLastAt ((matrixRowEntries (columnLabels header) cells).map Prod.fst)
      (matrixKey (rowLabel cells) label) c := by
    rw [map_fst_matrixRowEntries]
    exact (isLastAt_of_nodup hcolumns hlabel).map hinj
  have hentry : (matrixRowEntries (columnLabels header) cells)[c]? =
      some (matrixKey (rowLabel cells) label, cellValue cells (c + 1)) := by
    simp only [matrixRowEntries, List.getElem?_mapIdx, hlabel]
    rfl
  rw [OrderedMap.get?_ofList, matrixEntries_cons]
  -- the key is written last in its own row, and by no row behind it
  refine lookup_reverse_flatten (i := i) ?_ (hrow.lookup_reverse hentry) ?_
  · rw [List.getElem?_map, hcells, Option.map_some]
  · intro j fs hj hfs hmem
    rw [List.getElem?_map] at hfs
    obtain ⟨later, hrecord, rfl⟩ := Option.map_eq_some_iff.1 hfs
    rw [map_fst_matrixRowEntries] at hmem
    obtain ⟨other, hother, heq⟩ := List.mem_map.1 hmem
    exact hlater j later hj hrecord other hother heq

/-- Where no labels clash, no later row takes the key of a cell. -/
theorem matrixKey_ne_of_later (hrows : (records.map rowLabel).Nodup)
    (hclash : ¬KeysClash (records.map rowLabel) (columnLabels header)) {i j : Nat}
    {cells later : List String} {label other : String} (hcells : records[i]? = some cells)
    (hlabel : label ∈ columnLabels header) (hj : i < j) (hlater : records[j]? = some later)
    (hother : other ∈ columnLabels header) :
    matrixKey (rowLabel later) other ≠ matrixKey (rowLabel cells) label := by
  intro heq
  have hrow : rowLabel cells ∈ records.map rowLabel :=
    List.mem_map_of_mem (List.mem_of_getElem? hcells)
  have hrow' : rowLabel later ∈ records.map rowLabel :=
    List.mem_map_of_mem (List.mem_of_getElem? hlater)
  have hsame := (eq_of_matrixKey_eq hclash hrow' hrow hother hlabel heq).1
  have hlt : i < (records.map rowLabel).length := by
    rw [List.length_map]
    exact (List.getElem?_eq_some_iff.1 hcells).1
  have hij : i = j := by
    apply (List.getElem?_inj hlt hrows).1
    rw [List.getElem?_map, List.getElem?_map, hcells, hlater, Option.map_some, Option.map_some,
      hsame]
  omega

/-- **Cells of a matrix with distinct labels**. The whole read has one column for every column label
and row exactly if no labels clash, and then each has the cell of its row and column, or a text in
the place of none. Where labels clash, a cell is still read unless a later row takes its key. -/
theorem matrix_cells_kept (hrows : (records.map rowLabel).Nodup)
    (hcolumns : (columnLabels header).Nodup) :
    ∃ data, (⟨.matrix, some (header :: records)⟩ : Grid).allData? = some data ∧
      (data.entries.length = (columnLabels header).length * records.length ↔
        ¬KeysClash (records.map rowLabel) (columnLabels header)) ∧
      (¬KeysClash (records.map rowLabel) (columnLabels header) →
        ∀ (i c : Nat) cells label, records[i]? = some cells →
          (columnLabels header)[c]? = some label → data.get? (matrixKey (rowLabel cells) label) =
            some ((cells[c + 1]?.map Text.normalize).getD "N/A")) ∧
      ∀ (i c : Nat) cells label, records[i]? = some cells →
        (columnLabels header)[c]? = some label →
        (∀ j later, i < j → records[j]? = some later → ∀ other ∈ columnLabels header,
          matrixKey (rowLabel later) other ≠ matrixKey (rowLabel cells) label) →
        data.get? (matrixKey (rowLabel cells) label) =
          some ((cells[c + 1]?.map Text.normalize).getD "N/A") := by
  refine ⟨.ofList (matrixEntries (header :: records)), rfl, ?_,
    fun hclash i c cells label hcells hlabel => ?_,
    fun i c cells label hcells hlabel hlater => ?_⟩
  · rw [← length_matrixEntries, OrderedMap.length_ofList_eq_iff,
      nodup_keys_matrixEntries_iff hrows hcolumns]
  · rw [← cellValue_eq]
    apply get?_matrixEntries hcolumns hcells hlabel
    intro j later hj hlater other hother
    exact matrixKey_ne_of_later hrows hclash hcells (List.mem_of_getElem? hlabel) hj hlater hother
  · rw [← cellValue_eq]
    exact get?_matrixEntries hcolumns hcells hlabel hlater

/-- Labels with underscores that do not clash, and a row without cells: all four columns are
there. -/
theorem matrix_cells_kept_underscores :
    let header := ["", "2020_A", "2021"]
    let records := [["Land_A", " 1 "], []]
    (records.map rowLabel).Nodup ∧ (columnLabels header).Nodup ∧
      ¬KeysClash (records.map rowLabel) (columnLabels header) ∧
      ∃ data, (⟨.matrix, some (header :: records)⟩ : Grid).allData? = some data ∧
        data.entries.length = 4 ∧ data.get? "Land_A_2020_A" = some "1" ∧
        data.get? "_2021" = some "N/A" := by
  intro header records
  have hrows : (records.map rowLabel).Nodup := by decide +kernel
  have hcolumns : (columnLabels header).Nodup := by decide +kernel
  have hclash : ¬KeysClash (records.map rowLabel) (columnLabels header) :=
    (nodup_keys_matrixEntries_iff hrows hcolumns).1 (by decide +kernel)
  obtain ⟨data, hdata, hlength, hread, -⟩ := matrix_cells_kept hrows hcolumns
  refine ⟨hrows, hcolumns, hclash, data, hdata, hlength.2 hclash, ?_, ?_⟩
  · exact hread hclash 0 0 ["Land_A", " 1 "] "2020_A" rfl rfl
  · exact hread hclash 1 1 [] "2021" rfl rfl

/-- **A cell of a matrix is replaced**: all labels differ, yet the value of land use takes the
column of the use value of land, and three columns are left of four cells. -/
theorem matrix_cell_replaced :
    let header := ["", "Value", "Use_Value"]
    let records := [["Land", "100", "80"], ["Land_Use", "7", "9"]]
    (records.map rowLabel).Nodup ∧ (columnLabels header).Nodup ∧
      ∃ data, (⟨.matrix, some (header :: records)⟩ : Grid).allData? = some data ∧
        data.entries.length = 3 ∧ data.get? (matrixKey "Land" "Use_Value") = some "7" := by
  intro header records
  refine ⟨by decide +kernel, by decide +kernel, _, rfl, ?_, ?_⟩
  · decide +kernel
  · decide +kernel

end Matrices

end Grid

end ParcelRecords
