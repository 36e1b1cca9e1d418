import ParcelRecords.Proofs.Extraction.Run
import ParcelRecords.Proofs.Record.Flatten
import ParcelRecords.Sheet.Basic

/-!
# Columns that no page changes

Records of one site are appended to one sheet, and line up there if they have the same columns. Most
methods see to that: what they read stands under names that the entry itself gives, and where
nothing is found there is a null, not a gap. A value read so is never an object, so it is one column
of the flat record. Two methods name their columns after what the page holds, those that read a
whole table or a page without tables.

What counts is therefore the outline of a record, its names with the ways that lead into their
values. It decides the columns of the flat record, nested constants and meetings of joined names
included; and for the first sort of methods it is read off the schema.

## Main definitions

* `Json.paths`: the ways that lead into a value
* `Record.outline`: the names of entries, each with the ways into its value
* `Record.columns`: the joined names that an outline stands for
* `Method.hasFixedColumns`, `Entry.columnNames`: methods that name their columns without a page
* `Schema.outline`, `Schema.columns`: the outline of what a schema writes, and its columns

## Main results

* `Record.keys_flatten`: the outline of a record decides the columns of its flat form
* `Entry.outline_output`: what an entry reads has the outline that the entry gives
* `Schema.headers_same_on_all_pages`: the columns of every page are those of the schema
-/

namespace ParcelRecords

open Markup (Document)

/-! ## Outlines -/

/-- The names on the ways that lead into a value. A value that is no object has one way, which is
without names. -/
def Json.paths (value : Json) : List (List String) :=
  (Record.leaves value).map Prod.fst

namespace Record

/-- The names of entries, each with the ways that lead into its value. -/
def outline (es : List (String × Json)) : List (String × List (List String)) :=
  es.map fun e => (e.1, e.2.paths)

/-- The outline of entries that hold no objects. -/
def plainOutline (names : List String) : List (String × List (List String)) :=
  names.map fun name => (name, [[]])

theorem outline_append (es fs : List (String × Json)) :
    outline (es ++ fs) = outline es ++ outline fs :=
  List.map_append

theorem map_fst_leavesOf (fields : List (String × Json)) :
    (leavesOf fields).map Prod.fst = (outline fields).flatMap fun e => e.2.map (e.1 :: ·) := by
  induction fields with
  | nil => rfl
  | cons field rest ih =>
    obtain ⟨key, value⟩ := field
    have hvalue : ((leaves value).map fun l => (key :: l.1, l.2)).map Prod.fst =
        value.paths.map (key :: ·) := by
      rw [Json.paths, List.map_map, List.map_map]
      rfl
    rw [leavesOf, List.map_append, hvalue, ih]
    rfl

/-- The columns of the flat form of a record with an outline: the names on every way joined, each
where it comes first. -/
def columns (o : OrderedMap (List (List String))) : List String :=
  (o.entries.flatMap fun e => e.2.map fun names => joinPath "" (e.1 :: names)).eraseDups

/-- **The outline of a record** decides the columns of its flat form. -/
theorem keys_flatten (data : Record) : (data.flatten "").keys = columns (data.map Json.paths) := by
  have hleaves : (leafPaths data).map Prod.fst =
      (data.map Json.paths).entries.flatMap fun e => e.2.map (e.1 :: ·) :=
    map_fst_leavesOf data.entries
  have hnames : (joinedLeaves "" (leafPaths data)).map Prod.fst =
      ((leafPaths data).map Prod.fst).map (joinPath "") := by
    rw [joinedLeaves, List.map_map, List.map_map]
    rfl
  rw [flatten_eq, OrderedMap.keys_ofList, hnames, hleaves, List.map_flatMap, columns]
  simp only [List.map_map, Function.comp_def]

end Record

/-! ## Entries -/

@[simp] theorem paths_textOrNull (text : Option String) : (textOrNull text).paths = [[]] := by
  cases text <;> rfl

@[simp] theorem paths_textsOrNull (texts : Option (List String)) :
    (textsOrNull texts).paths = [[]] := by
  cases texts <;> rfl

theorem paths_controlValue (d : Document) (selector : String) :
    (Entry.controlValue d selector).paths = [[]] := by
  unfold Entry.controlValue
  cases d.focus.select? selector with
  | none => rfl
  | some f =>
    dsimp only
    cases Form.value d f <;> rfl

/-- The methods that name their columns without a page. -/
def Method.hasFixedColumns : Method → Bool
  | .bySelectors | .row | .column | .cell | .cellSelector | .formData => true
  | .allData | .appraiserPage => false

namespace Entry

/-- The columns that an entry reads, if its method names them without a page; none if the entry
lacks what its method needs. -/
def columnNames (e : Entry) : List String :=
  match e.method with
  | .bySelectors => (e.tableSelectors.getD .empty).keys
  | .formData => (e.formdata.getD .empty).keys
  | .row => if e.rowIdentifier.isSome then ["rowData"] else []
  | .column => if e.columnIdentifier.isSome then ["columnData"] else []
  | .cell => if e.rowIdentifier.isSome && e.columnIdentifier.isSome then ["cellValue"] else []
  | .cellSelector => if e.cellSelector.getD "" = "" then [] else ["cellValue"]
  | .allData | .appraiserPage => []

theorem output_of_ok {e : Entry} {d : Document} {output : List (String × Json)}
    (h : e.run d = .ok output) : e.output d = output := by
  rw [Entry.output, h]

theorem output_of_error {e : Entry} {d : Document} {f : Failure} (h : e.run d = .error f) :
    e.output d = [] := by
  rw [Entry.output, h]

/-- One value for every name of a map is a column for every name, if there is any. -/
theorem outline_readEach {e : Entry} {d : Document} {missing : Failure} {read : String → Json}
    {m : Option (OrderedMap String)} (hrun : e.run d = readEach missing read m)
    (hread : ∀ s, (read s).paths = [[]]) :
    Record.outline (e.output d) = Record.plainOutline (m.getD .empty).keys := by
  unfold readEach at hrun
  rw [OrderedMap.keys]
  -- a map without names is a failure, which reads nothing and has no columns either
  cases hm : (m.getD .empty).entries with
  | nil =>
    rw [hm] at hrun
    rw [output_of_error hrun]
    rfl
  | cons first rest =>
    rw [hm] at hrun
    rw [output_of_ok hrun]
    simp [Record.outline, Record.plainOutline, hread]

/-- **What an entry reads** stands under the names that the entry gives, one column for each, on
every page. -/
theorem outline_output {e : Entry} (h : e.method.hasFixedColumns = true) (d : Document) :
    Record.outline (e.output d) = Record.plainOutline e.columnNames := by
  -- the methods differ in the settings they need; without these nothing is read, on any page
  cases hm : e.method with
  | allData | appraiserPage =>
    rw [hm] at h
    cases h
  | bySelectors =>
    have hrun : e.run d = readEach .needsTableSelectors
        (fun s => textOrNull (selectedText? d s)) e.tableSelectors := by
      simp only [run, hm]
    rw [outline_readEach hrun fun s => paths_textOrNull _, columnNames, hm]
  | formData =>
    have hrun : e.run d = readEach .needsFormdata (controlValue d) e.formdata := by
      simp only [run, hm]
    rw [outline_readEach hrun (paths_controlValue d), columnNames, hm]
  | row =>
    cases hr : e.rowIdentifier <;>
      simp [output, run, columnNames, Record.outline, Record.plainOutline, hm, hr]
  | column =>
    cases hc : e.columnIdentifier <;>
      simp [output, run, columnNames, Record.outline, Record.plainOutline, hm, hc]
  | cell =>
    cases hr : e.rowIdentifier <;> cases hc : e.columnIdentifier <;>
      simp [output, run, columnNames, Record.outline, Record.plainOutline, hm, hr, hc]
  | cellSelector =>
    by_cases hs : e.cellSelector.getD "" = ""
    · simp [output, run, columnNames, hm, hs, Record.outline, Record.plainOutline]
    · have hrun : e.run d = .ok [("cellValue",
          textOrNull (selectedText? d (e.cellSelector.getD "")))] := by
        simp only [run, hm]
      rw [output_of_ok hrun]
      simp [columnNames, hm, hs, Record.outline, Record.plainOutline]

end Entry

/-! ## Runs -/

/-- The outline of what a raw entry writes: its constants, and the columns it reads; nothing if it
is refused. -/
def RawEntry.outline (raw : RawEntry) : List (String × List (List String)) :=
  match raw.read with
  | .accepted e => Record.outline e.constantEntries ++ Record.plainOutline e.columnNames
  | .refused _ => []

/-- Whether a raw entry names its columns without a page, or is refused and has none. -/
def RawEntry.hasFixedColumns (raw : RawEntry) : Bool :=
  match raw.read with
  | .accepted e => e.method.hasFixedColumns
  | .refused _ => true

theorem RawEntry.outline_writes {raw : RawEntry} (h : raw.hasFixedColumns = true) (d : Document) :
    Record.outline (raw.writes d) = raw.outline := by
  rw [hasFixedColumns] at h
  rw [writes, outline]
  cases hraw : raw.read with
  | refused problems => rfl
  | accepted e =>
    rw [hraw] at h
    dsimp only at h ⊢
    rw [Record.outline_append, Entry.outline_output h]

namespace Schema

/-- Whether all entries that are accepted name their columns without a page. -/
def HasFixedColumns (schema : Schema) : Prop :=
  ∀ s ∈ schema.entries, s.2.hasFixedColumns = true

/-- The outline of what a schema writes. -/
def outline (schema : Schema) : List (String × List (List String)) :=
  schema.entries.flatMap fun s => s.2.outline

theorem outline_writes {schema : Schema} (h : schema.HasFixedColumns) (d : Document) :
    Record.outline (schema.writes d) = schema.outline := by
  rw [writes, outline, Record.outline, List.map_flatMap]
  refine List.flatMap_congr fun s hs => ?_
  exact RawEntry.outline_writes (h s hs) d

/-- **The outline of the record** of a page is that of the schema. -/
theorem map_paths_run_data {schema : Schema} (h : schema.HasFixedColumns) (d : Document) :
    (schema.run d).data.map Json.paths = .ofList schema.outline := by
  rw [run_data, OrderedMap.map_ofList, ← outline_writes h d]
  rfl

/-- The columns of what a schema writes, as its constants and the settings of its entries give
them. -/
def columns (schema : Schema) : List String :=
  Record.columns (.ofList schema.outline)

theorem keys_flat_run {schema : Schema} (h : schema.HasFixedColumns) (d : Document) :
    (schema.run d).flat.keys = schema.columns := by
  rw [Extraction.flat, Record.keys_flatten, map_paths_run_data h d, columns]

/-- **Columns are the same on all pages** if every accepted entry has a method that names its
columns without a page. They are read off the schema: the row of names is one and the same, whatever
is missing on either page, and every row of the two sheets has as many cells. -/
theorem headers_same_on_all_pages (schema : Schema) (hfixed : schema.HasFixedColumns)
    (d d' : Document) :
    (Sheet.rows (schema.run d).flat)[0]? = (Sheet.rows (schema.run d').flat)[0]? ∧
      (Sheet.rows (schema.run d).flat)[0]? = some schema.columns ∧
      ∀ row ∈ Sheet.rows (schema.run d).flat, ∀ row' ∈ Sheet.rows (schema.run d').flat,
        row.length = row'.length := by
  have hkeys : (schema.run d).flat.keys = schema.columns := keys_flat_run hfixed d
  have hkeys' : (schema.run d').flat.keys = schema.columns := keys_flat_run hfixed d'
  -- the cells of a page are as many as its names
  have hlength (r : Record) {row : List String} (hrow : row ∈ Sheet.rows r) :
      row.length = r.keys.length := by
    simp only [Sheet.rows, List.mem_cons, List.not_mem_nil, or_false] at hrow
    obtain rfl | rfl := hrow
    · rfl
    · simp [Sheet.values, OrderedMap.values, OrderedMap.keys]
  refine ⟨congrArg some (hkeys.trans hkeys'.symm), congrArg some hkeys, ?_⟩
  intro row hrow row' hrow'
  rw [hlength _ hrow, hlength _ hrow', hkeys, hkeys']

/-- A cell over nested constants, one of which gives way to it, and a selector under the joined name
of another; two more sections fail. A page without the table has the columns of one with it. -/
theorem headers_same_without_table :
    let schema : Schema := .ofList [
      ("cell", .ready {
        method := .cell, tableSelector := some "table",
        rowIdentifier := some (.index 0), columnIdentifier := some (.index 0),
        constants := some (.ofList
          [("lot", .obj [("size", .int 1)]), ("cellValue", .obj [("unit", .str "acre")])]) }),
      ("area", .ready {
        method := .bySelectors, tableSelectors := some (.ofList [("lot_size", "td")]) }),
      ("row", .ready { method := .row, constants := some (.ofList [("source", .str "roll")]) }),
      ("rest", .json .null)]
    let page : Document := ⟨[.element ⟨"table", .empty⟩ [
      .element ⟨"tr", .empty⟩ [.element ⟨"th", .empty⟩ [.text .ordinary "Land"]],
      .element ⟨"tr", .empty⟩ [.element ⟨"td", .empty⟩ [.text .ordinary "Farm"]]]]⟩
    schema.HasFixedColumns ∧
      Sheet.rows (schema.run page).flat =
        [["lot_size", "cellValue", "source"], ["Farm", "Farm", "roll"]] ∧
      (Sheet.rows (schema.run ⟨[]⟩).flat)[0]? = some ["lot_size", "cellValue", "source"] := by
  intro schema page
  have hfixed : schema.HasFixedColumns := by
    unfold HasFixedColumns
    decide +kernel
  have hpage : Sheet.rows (schema.run page).flat =
      [["lot_size", "cellValue", "source"], ["Farm", "Farm", "roll"]] := by decide +kernel
  refine ⟨hfixed, hpage, ?_⟩
  rw [(headers_same_on_all_pages schema hfixed ⟨[]⟩ page).1, hpage]
  rfl

end Schema

end ParcelRecords
