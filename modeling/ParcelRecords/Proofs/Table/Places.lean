import Mathlib.Data.List.Nodup
import ParcelRecords.Table.Rows

/-!
# Rows with their places

Two rows of a table can be alike, so that a row is known by its place: the positions among children
that lead to it from the table, one for a row that stands in the table itself and two for a row of a
group. The rows of a table, in the order in which they are shown, all have different places.

## Main definitions

* `Element.placedChildren`, `Element.placedNamed`: child elements with their positions
* `Element.shownChildren`: the children that show rows, in the order of showing
* `Element.placedRows`: the rows of a table with their places
* `Element.at?`: the element at a place

## Main results

* `Element.map_snd_placedRows`: the placed rows are the rows
* `Element.at?_of_mem_placedRows`: every row stands at its place
* `Element.nodup_places`: no place is listed twice
-/

namespace ParcelRecords.Markup.Element

/-! ## Children -/

/-- The child elements with their positions among all children, in order. -/
def placedChildren (e : Element) : List (Nat × Element) :=
  e.children.zipIdx.filterMap fun n => n.1.element?.map fun c => (n.2, c)

/-- The child elements of one of the names with their positions. -/
def placedNamed (e : Element) (names : List String) : List (Nat × Element) :=
  e.placedChildren.filter fun c => c.2.name ∈ names

theorem mem_placedChildren {e : Element} {c : Nat × Element} :
    c ∈ e.placedChildren ↔ (e.children[c.1]?).bind Node.element? = some c.2 := by
  rw [placedChildren, List.mem_filterMap, Option.bind_eq_some_iff]
  constructor
  · rintro ⟨⟨n, i⟩, hn, hc⟩
    obtain ⟨child, hchild, rfl⟩ := Option.map_eq_some_iff.1 hc
    exact ⟨n, List.mk_mem_zipIdx_iff_getElem?.1 hn, hchild⟩
  · rintro ⟨n, hn, hchild⟩
    exact ⟨(n, c.1), List.mk_mem_zipIdx_iff_getElem?.2 hn,
      Option.map_eq_some_iff.2 ⟨c.2, hchild, rfl⟩⟩

/-- There is one child at a position. -/
theorem eq_of_mem_placedChildren {e : Element} {c c' : Nat × Element} (h : c ∈ e.placedChildren)
    (h' : c' ∈ e.placedChildren) (heq : c.1 = c'.1) : c = c' := by
  rw [mem_placedChildren, heq] at h
  rw [mem_placedChildren] at h'
  exact Prod.ext heq (Option.some.inj (h.symm.trans h'))

theorem map_snd_placedChildren (e : Element) : e.placedChildren.map Prod.snd = e.childElements := by
  have hfrom (nodes : List Node) (i : Nat) :
      ((nodes.zipIdx i).filterMap fun n => n.1.element?.map fun c => (n.2, c)).map Prod.snd =
        nodes.filterMap Node.element? := by
    induction nodes generalizing i with
    | nil => rfl
    | cons n rest ih => cases hn : n.element? <;> simp [hn, ih]
  exact hfrom e.children 0

theorem map_snd_placedNamed (e : Element) (names : List String) :
    (e.placedNamed names).map Prod.snd = e.childrenNamed names := by
  rw [childrenNamed, ← map_snd_placedChildren, List.filter_map]
  rfl

theorem nodup_positions (e : Element) : (e.placedChildren.map Prod.fst).Nodup := by
  have hnodes : (e.children.zipIdx.map Prod.snd).Nodup := by
    rw [List.zipIdx_map_snd]
    exact List.nodup_range'
  -- a child element has the position of its node, and nodes have one each
  rw [List.Nodup, List.pairwise_map] at hnodes ⊢
  rw [placedChildren, List.pairwise_filterMap]
  refine hnodes.imp fun hne c hc c' hc' => ?_
  obtain ⟨-, -, rfl⟩ := Option.map_eq_some_iff.1 hc
  obtain ⟨-, -, rfl⟩ := Option.map_eq_some_iff.1 hc'
  exact hne

theorem nodup_positions_placedNamed (e : Element) (names : List String) :
    ((e.placedNamed names).map Prod.fst).Nodup :=
  (List.filter_sublist.map Prod.fst).nodup e.nodup_positions

/-- Children with different names stand at different positions. -/
theorem disjoint_positions (e : Element) {names names' : List String}
    (h : names.Disjoint names') :
    ((e.placedNamed names).map Prod.fst).Disjoint ((e.placedNamed names').map Prod.fst) := by
  intro i hi hi'
  obtain ⟨c, hc, rfl⟩ := List.mem_map.1 hi
  obtain ⟨c', hc', heq⟩ := List.mem_map.1 hi'
  rw [placedNamed, List.mem_filter, decide_eq_true_eq] at hc hc'
  obtain rfl := eq_of_mem_placedChildren hc'.1 hc.1 heq
  exact h hc.2 hc'.2

/-! ## Rows -/

/-- The children that show rows, in the order in which they show them. -/
def shownChildren (table : Element) : List (Nat × Element) :=
  if table.name ∈ groupNames then table.placedNamed ["tr"]
  else
    table.placedNamed ["thead"] ++ table.placedNamed ["tr", "tbody"] ++ table.placedNamed ["tfoot"]

theorem mem_placedChildren_of_shown {table : Element} {c : Nat × Element}
    (h : c ∈ table.shownChildren) : c ∈ table.placedChildren := by
  unfold shownChildren placedNamed at h
  split at h
  · exact List.mem_of_mem_filter h
  · rw [List.mem_append, List.mem_append] at h
    obtain (h | h) | h := h <;> exact List.mem_of_mem_filter h

theorem nodup_positions_shownChildren (table : Element) :
    (table.shownChildren.map Prod.fst).Nodup := by
  unfold shownChildren
  split
  · exact table.nodup_positions_placedNamed ["tr"]
  · have hhead : ["thead"].Disjoint ["tr", "tbody"] := by simp
    have hfoot : ["thead"].Disjoint ["tfoot"] ∧ ["tr", "tbody"].Disjoint ["tfoot"] := by simp
    rw [List.map_append, List.map_append]
    refine ((table.nodup_positions_placedNamed _).append (table.nodup_positions_placedNamed _)
      (table.disjoint_positions hhead)).append (table.nodup_positions_placedNamed _) ?_
    rw [List.disjoint_append_left]
    exact ⟨table.disjoint_positions hfoot.1, table.disjoint_positions hfoot.2⟩

/-- The rows that a child shows: itself, or those of a group. -/
def rowsOf (child : Element) : List Element :=
  if child.name = "tr" then [child] else child.childrenNamed ["tr"]

/-- The rows that a child shows, with their places. -/
def placedRowsOf (child : Nat × Element) : List (List Nat × Element) :=
  if child.2.name = "tr" then [([child.1], child.2)]
  else (child.2.placedNamed ["tr"]).map fun row => ([child.1, row.1], row.2)

/-- **The rows of a table with their places**, in the order in which they are shown. -/
def placedRows (table : Element) : List (List Nat × Element) :=
  table.shownChildren.flatMap placedRowsOf

theorem map_snd_placedRowsOf (child : Nat × Element) :
    (placedRowsOf child).map Prod.snd = child.2.rowsOf := by
  unfold placedRowsOf rowsOf
  split
  · rfl
  · rw [List.map_map, ← map_snd_placedNamed]
    rfl

theorem flatMap_rowsOf_rows (e : Element) :
    (e.childrenNamed ["tr"]).flatMap rowsOf = e.childrenNamed ["tr"] := by
  have hrow : ∀ c ∈ e.childrenNamed ["tr"], c.rowsOf = [c] := fun c hc => by
    have hname : c.name = "tr" := by simpa using List.of_mem_filter hc
    rw [rowsOf, if_pos hname]
  rw [List.flatMap_congr hrow, List.flatMap_singleton']

theorem flatMap_rowsOf_groups (e : Element) {group : String} (h : group ≠ "tr") :
    (e.childrenNamed [group]).flatMap rowsOf = e.groupRows group := by
  refine List.flatMap_congr fun c hc => ?_
  have hname : c.name = group := by simpa using List.of_mem_filter hc
  rw [rowsOf, if_neg (hname ▸ h)]

theorem flatMap_rowsOf_body (e : Element) :
    (e.childrenNamed ["tr", "tbody"]).flatMap rowsOf = e.childElements.flatMap bodyRows := by
  unfold childrenNamed
  -- children of other names add no rows, whether they are filtered out or not
  induction e.childElements with
  | nil => rfl
  | cons c rest ih =>
    by_cases hrow : c.name = "tr"
    · simp [hrow, bodyRows, rowsOf, ← ih]
    · by_cases hgroup : c.name = "tbody"
      · simp [hgroup, bodyRows, rowsOf, ← ih]
      · simp [hrow, hgroup, bodyRows, ← ih]

/-- The rows of a table are those of the children that show rows. -/
theorem ownRows_eq (table : Element) :
    table.ownRows = (table.shownChildren.map Prod.snd).flatMap rowsOf := by
  unfold ownRows shownChildren
  split
  · rw [map_snd_placedNamed, flatMap_rowsOf_rows]
  · rw [List.map_append, List.map_append, List.flatMap_append, List.flatMap_append]
    simp only [map_snd_placedNamed]
    rw [flatMap_rowsOf_groups _ (by decide), flatMap_rowsOf_groups _ (by decide),
      flatMap_rowsOf_body]

theorem map_snd_placedRows (table : Element) : table.placedRows.map Prod.snd = table.ownRows := by
  rw [ownRows_eq, placedRows, List.map_flatMap, List.flatMap_map]
  simp only [map_snd_placedRowsOf]

/-! ## Places -/

/-- The element at a place. -/
def at? : Element → List Nat → Option Element
  | e, [] => some e
  | e, i :: place => ((e.children[i]?).bind Node.element?).bind fun c => c.at? place

/-- **Every row stands at its place**. -/
theorem at?_of_mem_placedRows {table : Element} {row : List Nat × Element}
    (h : row ∈ table.placedRows) : table.at? row.1 = some row.2 := by
  obtain ⟨c, hc, hrow⟩ := List.mem_flatMap.1 h
  have hchild := mem_placedChildren.1 (mem_placedChildren_of_shown hc)
  unfold placedRowsOf at hrow
  split at hrow
  · obtain rfl := List.mem_singleton.1 hrow
    simp [at?, hchild]
  · obtain ⟨r, hr, rfl⟩ := List.mem_map.1 hrow
    have hinner := mem_placedChildren.1 (List.mem_of_mem_filter hr)
    simp [at?, hchild, hinner]

theorem places_of_row {c : Nat × Element} (h : c.2.name = "tr") :
    (placedRowsOf c).map Prod.fst = [[c.1]] := by
  rw [placedRowsOf, if_pos h]
  rfl

theorem places_of_group {c : Nat × Element} (h : c.2.name ≠ "tr") :
    (placedRowsOf c).map Prod.fst =
      ((c.2.placedNamed ["tr"]).map Prod.fst).map fun j => [c.1, j] := by
  rw [placedRowsOf, if_neg h, List.map_map, List.map_map]
  rfl

/-- The places of the rows that a child shows begin with its position. -/
theorem exists_of_mem_places {c : Nat × Element} {place : List Nat}
    (h : place ∈ (placedRowsOf c).map Prod.fst) : ∃ rest, place = c.1 :: rest := by
  by_cases hrow : c.2.name = "tr"
  · rw [places_of_row hrow, List.mem_singleton] at h
    exact ⟨[], h⟩
  · rw [places_of_group hrow] at h
    obtain ⟨j, -, rfl⟩ := List.mem_map.1 h
    exact ⟨[j], rfl⟩

/-- **No place is listed twice**. -/
theorem nodup_places (table : Element) : (table.placedRows.map Prod.fst).Nodup := by
  rw [placedRows, List.map_flatMap, List.nodup_flatMap]
  refine ⟨fun c _ => ?_, ?_⟩
  · by_cases hrow : c.2.name = "tr"
    · rw [places_of_row hrow]
      exact List.nodup_singleton _
    · have hinjective : Function.Injective fun j : Nat => [c.1, j] := by
        intro j j' heq
        simpa using heq
      rw [places_of_group hrow]
      exact (c.2.nodup_positions_placedNamed ["tr"]).map hinjective
  · -- rows of different children differ in the position of the child
    refine (List.pairwise_map.1 table.nodup_positions_shownChildren).imp ?_
    intro c c' hne place hplace hplace'
    obtain ⟨rest, rfl⟩ := exists_of_mem_places hplace
    obtain ⟨rest', heq⟩ := exists_of_mem_places hplace'
    exact hne (List.cons.inj heq).1

end ParcelRecords.Markup.Element
