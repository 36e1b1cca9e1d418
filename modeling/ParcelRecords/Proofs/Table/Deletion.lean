import ParcelRecords.Proofs.Table.Places
import ParcelRecords.Table.Locator

/-!
# Leaving rows out is deleting them

A filter leaves rows out by their positions in the table as it is shown, and by what they hold. The
same rows may be deleted from the page instead, where they stand in groups whose order is another,
before the table is read without a filter. Every read then gives the same.

Deletion is a matter of the tree alone: what stands at the given places goes, with all that is
inside, and the nodes behind it move up. A table loses rows in this way, and no other row changes, as
long as the places are places of rows.

## Main definitions

* `Element.without`: an element without what stands at some places inside it
* `RowFilter.drops`, `RowFilter.droppedPlaces`: the rows that a filter leaves out, and their places
* `Element.withoutRows`: a table without the rows that a filter leaves out

## Main results

* `Element.ownRows_without`: a deletion of rows leaves the other rows, as they are and in order
* `Element.ownRows_withoutRows`: the rows that are left are those that the filter keeps
* `Grid.filtering_is_deletion`: all reads under a filter are the reads after the deletion
-/

namespace ParcelRecords

namespace Markup

/-! ## Deletion in a tree -/

mutual

/-- A node without what stands at some places inside it. -/
def Node.without (drops : List Nat → Bool) : Node → Node
  | .element tag children => .element tag (withoutFrom drops 0 children)
  | .text kind content => .text kind content

/-- Nodes, the first of them at a position, without what stands at some places among and inside
them. -/
def withoutFrom (drops : List Nat → Bool) (i : Nat) : List Node → List Node
  | [] => []
  | n :: rest =>
    if drops [i] then withoutFrom drops (i + 1) rest
    else n.without (fun place => drops (i :: place)) :: withoutFrom drops (i + 1) rest

end

mutual

theorem Node.without_eq_self {drops : List Nat → Bool} (h : ∀ i place, drops (i :: place) = false) :
    (n : Node) → n.without drops = n
  | .element tag children => by rw [Node.without, withoutFrom_eq_self h 0 children]
  | .text kind content => rfl

theorem withoutFrom_eq_self {drops : List Nat → Bool} (h : ∀ i place, drops (i :: place) = false)
    (i : Nat) : (nodes : List Node) → withoutFrom drops i nodes = nodes
  | [] => rfl
  | n :: rest => by
    have hkept : ¬ drops [i] = true := by simp [h]
    rw [withoutFrom, if_neg hkept, n.without_eq_self fun j place => h i (j :: place),
      withoutFrom_eq_self h (i + 1) rest]

end

namespace Element

/-- An element without what stands at some places inside it. -/
def without (drops : List Nat → Bool) (e : Element) : Element :=
  ⟨e.tag, withoutFrom drops 0 e.children⟩

@[simp] theorem name_without (drops : List Nat → Bool) (e : Element) :
    (e.without drops).name = e.name := rfl

/-- A deletion that reaches no place inside an element leaves it as it is. -/
theorem without_eq_self {drops : List Nat → Bool} (h : ∀ i place, drops (i :: place) = false)
    (e : Element) : e.without drops = e := by
  rw [without, withoutFrom_eq_self h]

theorem element?_without (drops : List Nat → Bool) (n : Node) :
    (n.without drops).element? = n.element?.map (without drops) := by
  cases n <;> rfl

/-- What is left of the child elements: those not deleted, without what was deleted inside them. -/
theorem childElements_without (drops : List Nat → Bool) (e : Element) :
    (e.without drops).childElements = (e.placedChildren.filter fun c => !drops [c.1]).map
      fun c => c.2.without fun place => drops (c.1 :: place) := by
  have hfrom (nodes : List Node) (i : Nat) : (withoutFrom drops i nodes).filterMap Node.element? =
      (((nodes.zipIdx i).filterMap fun n => n.1.element?.map fun c => (n.2, c)).filter
        fun c => !drops [c.1]).map fun c => c.2.without fun place => drops (c.1 :: place) := by
    -- positions count the nodes of the page, those deleted and texts included
    induction nodes generalizing i with
    | nil => rfl
    | cons n rest ih =>
      rw [withoutFrom]
      cases hdrop : drops [i] <;> cases hn : n.element? <;>
        simp [hdrop, hn, ih, element?_without]
  exact hfrom e.children 0

theorem childrenNamed_without (drops : List Nat → Bool) (e : Element) (names : List String) :
    (e.without drops).childrenNamed names =
      ((e.placedNamed names).filter fun c => !drops [c.1]).map
        fun c => c.2.without fun place => drops (c.1 :: place) := by
  rw [childrenNamed, childElements_without, List.filter_map, placedNamed, List.filter_filter,
    List.filter_filter]
  simp only [Function.comp_def, name_without, Bool.and_comm]
  rfl

/-! ## Deletion of rows -/

theorem shownChildren_without (drops : List Nat → Bool) (table : Element) :
    (table.without drops).shownChildren.map Prod.snd =
      (table.shownChildren.filter fun c => !drops [c.1]).map
        fun c => c.2.without fun place => drops (c.1 :: place) := by
  unfold shownChildren
  rw [name_without]
  split
  · rw [map_snd_placedNamed, childrenNamed_without]
  · simp only [List.map_append, List.filter_append, map_snd_placedNamed, childrenNamed_without]

section Rows

variable {table : Element} {drops : List Nat → Bool}
  (hdrops : ∀ place, drops place = true → place ∈ table.placedRows.map Prod.fst)
include hdrops

/-- A place that is deleted inside a child is the place of one of its rows. -/
theorem mem_places_of_drops {c : Nat × Element} (hc : c ∈ table.shownChildren) {place : List Nat}
    (h : drops (c.1 :: place) = true) : c.1 :: place ∈ (placedRowsOf c).map Prod.fst := by
  have hplace := hdrops _ h
  rw [placedRows, List.map_flatMap, List.mem_flatMap] at hplace
  obtain ⟨c', hc', hplace⟩ := hplace
  obtain ⟨rest, heq⟩ := exists_of_mem_places hplace
  have hsame : c' = c := eq_of_mem_placedChildren (mem_placedChildren_of_shown hc')
    (mem_placedChildren_of_shown hc) (List.cons.inj heq).1.symm
  rwa [hsame] at hplace

/-- Elsewhere inside a child nothing is deleted. -/
theorem drops_eq_false {c : Nat × Element} (hc : c ∈ table.shownChildren) {place : List Nat}
    (h : c.1 :: place ∉ (placedRowsOf c).map Prod.fst) : drops (c.1 :: place) = false := by
  rw [← Bool.not_eq_true]
  intro hdrop
  exact h (mem_places_of_drops hdrops hc hdrop)

/-- What is left of the rows of a child. -/
theorem rowsOf_without {c : Nat × Element} (hc : c ∈ table.shownChildren) :
    (if drops [c.1] then [] else (c.2.without fun place => drops (c.1 :: place)).rowsOf) =
      ((placedRowsOf c).filter fun row => !drops row.1).map Prod.snd := by
  by_cases hrow : c.2.name = "tr"
  · -- the child is a row, and nothing is deleted inside it
    have hinside (i : Nat) (place : List Nat) : drops (c.1 :: i :: place) = false :=
      drops_eq_false hdrops hc (by simp [places_of_row hrow])
    rw [without_eq_self hinside, rowsOf, if_pos hrow, placedRowsOf, if_pos hrow]
    cases hdrop : drops [c.1] <;> simp [hdrop]
  · -- the child is a group: it stays, and of its rows those not deleted
    have hgroup : drops [c.1] = false :=
      drops_eq_false hdrops hc (by simp [places_of_group hrow])
    have hinside (j i : Nat) (place : List Nat) : drops (c.1 :: j :: i :: place) = false :=
      drops_eq_false hdrops hc (by simp [places_of_group hrow])
    rw [hgroup, rowsOf, name_without, if_neg hrow, childrenNamed_without, placedRowsOf, if_neg hrow,
      List.filter_map, List.map_map]
    have hsame (row : Nat × Element) :
        row.2.without (fun place => drops (c.1 :: row.1 :: place)) = row.2 :=
      without_eq_self (hinside row.1) row.2
    simp only [hsame]
    rfl

/-- **A deletion of rows** leaves the other rows, as they are and in order. -/
theorem ownRows_without :
    (table.without drops).ownRows =
      (table.placedRows.filter fun row => !drops row.1).map Prod.snd := by
  have hchildren (children : List (Nat × Element))
      (hshown : ∀ c ∈ children, c ∈ table.shownChildren) :
      ((children.filter fun c => !drops [c.1]).flatMap
        fun c => (c.2.without fun place => drops (c.1 :: place)).rowsOf) =
        children.flatMap fun c =>
          ((placedRowsOf c).filter fun row => !drops row.1).map Prod.snd := by
    -- child by child; what makes the step go through is that each of them shows rows
    induction children with
    | nil => rfl
    | cons c rest ih =>
      rw [List.flatMap_cons, ← rowsOf_without hdrops (hshown c List.mem_cons_self),
        ← ih fun c' hc' => hshown c' (List.mem_cons_of_mem c hc')]
      cases hdrop : drops [c.1] <;> simp [hdrop]
  rw [ownRows_eq, shownChildren_without, placedRows, List.filter_flatMap, List.map_flatMap,
    List.flatMap_map]
  exact hchildren table.shownChildren fun c hc => hc

end Rows

end Element

end Markup

/-! ## Filters -/

namespace RowFilter

open Markup (Element)

/-- Whether a row at a position is left out. -/
def drops (filter : RowFilter) (position : Nat) (cells : List String) : Bool :=
  filter.dropsAt position || filter.dropsCells cells

/-- The rows kept are those at positions that are not left out. -/
theorem keep_eq (filter : RowFilter) (rows : List (List String)) :
    filter.keep rows = (rows.zipIdx.filter fun row => !filter.drops row.2 row.1).map Prod.fst := by
  have hfrom (position : Nat) : filter.keepFrom position rows =
      ((rows.zipIdx position).filter fun row => !filter.drops row.2 row.1).map Prod.fst := by
    induction rows generalizing position with
    | nil => rfl
    | cons cells rest ih =>
      rw [keepFrom, ih]
      -- both reasons to leave a row out are one
      change (if filter.drops position cells = true then _ else _) = _
      cases hdrop : filter.drops position cells <;> simp [hdrop]
  exact hfrom 0

/-- The filter without settings keeps all rows. -/
theorem keep_default (rows : List (List String)) : ({} : RowFilter).keep rows = rows := by
  have hkeeps (row : List String × Nat) : ({} : RowFilter).drops row.2 row.1 = false := rfl
  simp [keep_eq, hkeeps]

/-- The places of the rows that are left out of a table. -/
def droppedPlaces (filter : RowFilter) (table : Element) : List (List Nat) :=
  (table.placedRows.zipIdx.filter fun row =>
    filter.drops row.2 (row.1.2.cells.map Element.text)).map fun row => row.1.1

end RowFilter

namespace Markup.Element

/-- **A table without the rows that a filter leaves out**: they are deleted where they stand. -/
def withoutRows (filter : RowFilter) (table : Element) : Element :=
  table.without fun place => decide (place ∈ filter.droppedPlaces table)

/-- What is deleted are rows that the filter leaves out. -/
theorem exists_of_mem_droppedPlaces {filter : RowFilter} {table : Element} {place : List Nat}
    (h : place ∈ filter.droppedPlaces table) :
    ∃ (position : Nat) (row : Element), table.ownRows[position]? = some row ∧
      filter.drops position (row.cells.map text) = true ∧ table.at? place = some row := by
  obtain ⟨⟨row, position⟩, hrow, rfl⟩ := List.mem_map.1 h
  obtain ⟨hrow, hdrop⟩ := List.mem_filter.1 hrow
  refine ⟨position, row.2, ?_, hdrop, ?_⟩
  · rw [← map_snd_placedRows, List.getElem?_map, List.mk_mem_zipIdx_iff_getElem?.1 hrow,
      Option.map_some]
  · exact at?_of_mem_placedRows (List.fst_mem_of_mem_zipIdx hrow)

/-- A row stands at the place of one that is left out only if it is left out itself. -/
theorem mem_droppedPlaces_iff {filter : RowFilter} {table : Element}
    {row : (List Nat × Element) × Nat} (h : row ∈ table.placedRows.zipIdx) :
    row.1.1 ∈ filter.droppedPlaces table ↔
      filter.drops row.2 (row.1.2.cells.map text) = true := by
  constructor
  · intro hmem
    obtain ⟨row', hrow', hplace⟩ := List.mem_map.1 hmem
    obtain ⟨hrow', hdrop⟩ := List.mem_filter.1 hrow'
    -- two rows at one place are at one position, since no place is listed twice
    have hat := List.mem_zipIdx_iff_getElem?.1 h
    have hat' := List.mem_zipIdx_iff_getElem?.1 hrow'
    have hposition : row'.2 = row.2 := by
      refine (List.getElem?_inj ?_ table.nodup_places).1 ?_
      · rw [List.length_map]
        exact (List.getElem?_eq_some_iff.1 hat').1
      · rw [List.getElem?_map, List.getElem?_map, hat, hat', Option.map_some, Option.map_some,
          hplace]
    rw [hposition, hat] at hat'
    rw [hposition, ← Option.some.inj hat'] at hdrop
    exact hdrop
  · intro hdrop
    exact List.mem_map.2 ⟨row, List.mem_filter.2 ⟨h, hdrop⟩, rfl⟩

/-- **The rows that are left** are those that the filter keeps. -/
theorem ownRows_withoutRows (filter : RowFilter) (table : Element) :
    (table.withoutRows filter).ownRows =
      (table.ownRows.zipIdx.filter fun row =>
        !filter.drops row.2 (row.1.cells.map text)).map Prod.fst := by
  have hdrops : ∀ place, decide (place ∈ filter.droppedPlaces table) = true →
      place ∈ table.placedRows.map Prod.fst := fun place hplace => by
    obtain ⟨row, hrow, rfl⟩ := List.mem_map.1 (of_decide_eq_true hplace)
    exact List.mem_map_of_mem (List.fst_mem_of_mem_zipIdx (List.mem_of_mem_filter hrow))
  have hkept : table.placedRows.zipIdx.filter
      (fun row => !decide (row.1.1 ∈ filter.droppedPlaces table)) =
        table.placedRows.zipIdx.filter
          fun row => !filter.drops row.2 (row.1.2.cells.map text) :=
    List.filter_congr fun row hrow => by
      rw [Bool.eq_iff_iff]
      simp [mem_droppedPlaces_iff hrow]
  -- the rows of the tree, of the places and of the filter are counted alike
  calc (table.withoutRows filter).ownRows
      = ((table.placedRows.zipIdx.map Prod.fst).filter
          fun row => !decide (row.1 ∈ filter.droppedPlaces table)).map Prod.snd := by
        rw [List.zipIdx_map_fst]
        exact ownRows_without hdrops
    _ = (table.placedRows.zipIdx.filter
          fun row => !filter.drops row.2 (row.1.2.cells.map text)).map fun row => row.1.2 := by
        rw [List.filter_map, List.map_map, ← hkept]
        rfl
    _ = ((table.placedRows.map Prod.snd).zipIdx.filter fun row =>
          !filter.drops row.2 (row.1.cells.map text)).map Prod.fst := by
        rw [List.zipIdx_map, List.filter_map, List.map_map]
        rfl
    _ = _ := by rw [map_snd_placedRows]

-- A head that stands last is shown first, and its row goes with position zero.
example :
    let row : Node := .element ⟨"tr", .empty⟩ []
    (withoutRows { indices := [0] }
      ⟨⟨"table", .empty⟩, [row, .element ⟨"thead", .empty⟩ [row]]⟩).children =
        [row, .element ⟨"thead", .empty⟩ []] := by
  rfl

theorem cellTexts_withoutRows (filter : RowFilter) (table : Element) :
    (table.withoutRows filter).cellTexts = filter.keep table.cellTexts := by
  rw [cellTexts, ownRows_withoutRows, RowFilter.keep_eq, cellTexts, List.zipIdx_map,
    List.filter_map, List.map_map, List.map_map]
  rfl

end Markup.Element

/-! ## Reads -/

namespace Grid

open Markup (Element)

theorem ofTable?_withoutRows (table : Element) (shape : Shape) (filter : RowFilter) :
    ofTable? (some (table.withoutRows filter)) shape {} = ofTable? (some table) shape filter := by
  simp [ofTable?, RowFilter.keep_default, Element.cellTexts_withoutRows]

/-- **Leaving rows out is deleting them**. What is deleted are rows that the filter leaves out, and
the rows of the table are then the ones it keeps, as they were. Without a filter every read of that
table, whole or by positions and labels, gives what it gives of the full table under the filter. -/
theorem filtering_is_deletion (table : Element) (shape : Shape) (filter : RowFilter) :
    (∀ place ∈ filter.droppedPlaces table, ∃ (position : Nat) (row : Element),
        table.ownRows[position]? = some row ∧
        filter.drops position (row.cells.map Element.text) = true ∧
        table.at? place = some row) ∧
      (table.withoutRows filter).ownRows =
        (table.ownRows.zipIdx.filter fun row =>
          !filter.drops row.2 (row.1.cells.map Element.text)).map Prod.fst ∧
      let filtered := ofTable? (some table) shape filter
      let deleted := ofTable? (some (table.withoutRows filter)) shape {}
      filtered.allData? = deleted.allData? ∧
      (∀ row column, filtered.cellAt? row column = deleted.cellAt? row column) ∧
      (∀ axis text, filtered.indexOf? axis text = deleted.indexOf? axis text) ∧
      (∀ first second, filtered.cellByLabel? first second = deleted.cellByLabel? first second) ∧
      (∀ row, filtered.rowTexts? row = deleted.rowTexts? row) ∧
      ∀ column, filtered.columnTexts? column = deleted.columnTexts? column := by
  refine ⟨fun place hplace => Element.exists_of_mem_droppedPlaces hplace,
    table.ownRows_withoutRows filter, ?_⟩
  intro filtered deleted
  -- every read looks at the grid alone, and the grids are one
  have hgrid : filtered = deleted := (ofTable?_withoutRows table shape filter).symm
  rw [hgrid]
  exact ⟨rfl, fun _ _ => rfl, fun _ _ => rfl, fun _ _ => rfl, fun _ => rfl, fun _ => rfl⟩

end Grid

end ParcelRecords
