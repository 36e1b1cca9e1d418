import ParcelRecords.Proofs.Markup.Ancestors
import ParcelRecords.Proofs.Markup.Order
import ParcelRecords.Table.Rows

/-!
# The rows that belong to a table

A row belongs to a table if it stands in the table itself or in one of its groups of rows. These
rows are shown and no others: those of the heads first, those of the feet last, and within each of
the three parts in the order of the page, however heads, bodies and feet are mixed. Rows alike are
told apart by their places, and each is shown once. No table stands between a row and the table to
which it belongs, so the rows of tables inside its cells are left to those tables.

## Main definitions

* `Focus.IsRowOf`, `Focus.IsGroupRowOf`: the rows that belong to a table
* `Focus.tableAround?`: the nearest table around an element
* `Focus.groupRows`, `Focus.bodyRows`: the rows of a table in their places

## Main results

* `Focus.own_rows_once_in_display_order`: which rows are shown, and in which order
-/

namespace ParcelRecords.Markup.Focus

variable {t r : Focus} {group : String}

/-! ## Rows of a table -/

/-- A row that stands in the table itself. -/
def IsRowOf (t r : Focus) : Prop :=
  r.name = "tr" ∧ r.parent? = some t

/-- A row that stands in a group of the table, one of the name `group`. -/
def IsGroupRowOf (t : Focus) (group : String) (r : Focus) : Prop :=
  r.name = "tr" ∧ ∃ g, r.parent? = some g ∧ g.name = group ∧ g.parent? = some t

/-- The nearest table around an element. -/
def tableAround? (f : Focus) : Option Focus :=
  f.ancestors.find? (·.name = "table")

/-- The rows in the groups of a name, in their places. -/
def groupRows (t : Focus) (group : String) : List Focus :=
  t.childElements.flatMap fun c => if c.name = group then c.childrenNamed ["tr"] else []

/-- The rows of the body of a table, in their places. -/
def bodyRows (t : Focus) : List Focus :=
  t.childElements.flatMap fun c =>
    if c.name = "tr" then [c] else if c.name = "tbody" then c.childrenNamed ["tr"] else []

/-! ## The rows as they are shown -/

theorem map_here_groupRows (t : Focus) (group : String) :
    (t.groupRows group).map here = t.here.groupRows group := by
  rw [groupRows, Element.groupRows, Element.childrenNamed, ← map_here_childElements,
    List.map_flatMap, List.filter_map, List.flatMap_map]
  induction t.childElements with
  | nil => rfl
  | cons c rest ih =>
    by_cases hc : c.name = group
    · have hkept : c.here.name = group := hc
      simp [hc, hkept, ih, map_here_childrenNamed]
    · have hleft : ¬c.here.name = group := hc
      simp [hc, hleft, ih]

theorem map_here_bodyRows (t : Focus) :
    t.bodyRows.map here = t.here.childElements.flatMap Element.bodyRows := by
  rw [bodyRows, ← map_here_childElements, List.map_flatMap, List.flatMap_map]
  refine List.flatMap_congr fun c _ => ?_
  change _ = if c.name = "tr" then _ else if c.name = "tbody" then _ else _
  split
  · rfl
  · split
    · exact c.map_here_childrenNamed ["tr"]
    · rfl

/-- A table shows the rows of its heads, of its body and of its feet. -/
theorem map_here_rows (ht : t.name = "table") :
    (t.groupRows "thead" ++ t.bodyRows ++ t.groupRows "tfoot").map here = t.here.ownRows := by
  have hgroup : t.here.name ∉ Element.groupNames := by
    rw [show t.here.name = "table" from ht]
    decide
  rw [Element.ownRows, if_neg hgroup, List.map_append, List.map_append, map_here_groupRows,
    map_here_groupRows, map_here_bodyRows]

/-! ## Which rows these are -/

theorem mem_groupRows : r ∈ t.groupRows group ↔ t.IsGroupRowOf group r := by
  rw [groupRows, List.mem_flatMap]
  constructor
  · rintro ⟨g, hg, hr⟩
    split at hr
    · rename_i hname
      obtain ⟨hparent, hrow⟩ := mem_childrenNamed.1 hr
      exact ⟨List.mem_singleton.1 hrow, g, hparent, hname, mem_childElements.1 hg⟩
    · cases hr
  · rintro ⟨hrow, g, hparent, hname, hg⟩
    refine ⟨g, mem_childElements.2 hg, ?_⟩
    rw [if_pos hname]
    exact mem_childrenNamed.2 ⟨hparent, List.mem_singleton.2 hrow⟩

theorem mem_bodyRows : r ∈ t.bodyRows ↔ t.IsRowOf r ∨ t.IsGroupRowOf "tbody" r := by
  rw [bodyRows, List.mem_flatMap]
  constructor
  · rintro ⟨c, hc, hr⟩
    split at hr
    · rename_i hrow
      obtain rfl := List.mem_singleton.1 hr
      exact .inl ⟨hrow, mem_childElements.1 hc⟩
    · split at hr
      · rename_i hname
        obtain ⟨hparent, hrow⟩ := mem_childrenNamed.1 hr
        exact .inr ⟨List.mem_singleton.1 hrow, c, hparent, hname, mem_childElements.1 hc⟩
      · cases hr
  · rintro (⟨hrow, hparent⟩ | ⟨hrow, g, hparent, hname, hg⟩)
    · refine ⟨r, mem_childElements.2 hparent, ?_⟩
      rw [if_pos hrow]
      exact List.mem_singleton_self r
    · have hnot : ¬g.name = "tr" := by
        rw [hname]
        decide
      refine ⟨g, mem_childElements.2 hg, ?_⟩
      rw [if_neg hnot, if_pos hname]
      exact mem_childrenNamed.2 ⟨hparent, List.mem_singleton.2 hrow⟩

/-- The rows of a group stand inside it, so they are listed in document order. -/
theorem listsOnce_groupRows (t : Focus) (group : String) :
    t.ListsOnce (t.IsGroupRowOf group) (t.groupRows group) := by
  refine listsOnce_flatMap (fun c _ => ?_) fun r => mem_groupRows
  split
  · exact (c.listsOnce_childrenNamed ["tr"]).inOrder.cons c
  · exact List.nil_sublist _

theorem listsOnce_bodyRows (t : Focus) :
    t.ListsOnce (fun r => t.IsRowOf r ∨ t.IsGroupRowOf "tbody" r) t.bodyRows := by
  refine listsOnce_flatMap (fun c _ => ?_) fun r => mem_bodyRows
  split
  · exact List.singleton_sublist.2 List.mem_cons_self
  · split
    · exact (c.listsOnce_childrenNamed ["tr"]).inOrder.cons c
    · exact List.nil_sublist _

/-! ## One row in one part -/

/-- A row stands in groups of one name only. -/
theorem IsGroupRowOf.group_eq {group' : String} (h : t.IsGroupRowOf group r)
    (h' : t.IsGroupRowOf group' r) : group = group' := by
  obtain ⟨-, g, hparent, rfl, -⟩ := h
  obtain ⟨-, g', hparent', rfl, -⟩ := h'
  rw [Option.some.inj (hparent.symm.trans hparent')]

/-- A row of a group does not stand in the table itself, which is no group of that name. -/
theorem IsGroupRowOf.not_isRowOf (h : t.IsGroupRowOf group r) (hname : t.name ≠ group) :
    ¬t.IsRowOf r := by
  rintro ⟨-, hparent⟩
  obtain ⟨-, g, hparent', rfl, -⟩ := h
  exact hname (congrArg name (Option.some.inj (hparent.symm.trans hparent')))

theorem IsGroupRowOf.not_mem_bodyRows (h : t.IsGroupRowOf group r) (hname : t.name ≠ group)
    (hgroup : group ≠ "tbody") : r ∉ t.bodyRows := by
  intro hr
  rcases mem_bodyRows.1 hr with hdirect | hbody
  · exact h.not_isRowOf hname hdirect
  · exact hgroup (h.group_eq hbody)

/-- No row is shown in two of the three parts. -/
theorem nodup_rows (ht : t.name = "table") :
    (t.groupRows "thead" ++ t.bodyRows ++ t.groupRows "tfoot").Nodup := by
  have hother : t.name ≠ "thead" ∧ t.name ≠ "tfoot" := by
    rw [ht]
    decide
  have hheads := (t.listsOnce_groupRows "thead").nodup
  have hfeet := (t.listsOnce_groupRows "tfoot").nodup
  refine (hheads.append t.listsOnce_bodyRows.nodup fun r hhead hbody => ?_).append hfeet
    fun r hr hfoot => ?_
  · exact (mem_groupRows.1 hhead).not_mem_bodyRows hother.1 (by decide) hbody
  · have hrow := mem_groupRows.1 hfoot
    rcases List.mem_append.1 hr with hhead | hbody
    · exact absurd (hrow.group_eq (mem_groupRows.1 hhead)) (by decide)
    · exact hrow.not_mem_bodyRows hother.2 (by decide) hbody

/-! ## The table around a row -/

theorem IsRowOf.tableAround?_eq (h : t.IsRowOf r) (ht : t.name = "table") :
    r.tableAround? = some t := by
  rw [tableAround?, ancestors_of_parent? h.2, List.find?_cons_of_pos (by simpa using ht)]

theorem IsGroupRowOf.tableAround?_eq (h : t.IsGroupRowOf group r) (hgroup : group ≠ "table")
    (ht : t.name = "table") : r.tableAround? = some t := by
  obtain ⟨-, g, hparent, rfl, hg⟩ := h
  rw [tableAround?, ancestors_of_parent? hparent, ancestors_of_parent? hg,
    List.find?_cons_of_neg (by simpa using hgroup), List.find?_cons_of_pos (by simpa using ht)]

theorem tableAround?_of_mem_rows (ht : t.name = "table")
    (hr : r ∈ t.groupRows "thead" ++ t.bodyRows ++ t.groupRows "tfoot") :
    r.tableAround? = some t := by
  rcases List.mem_append.1 hr with hr | hfoot
  · rcases List.mem_append.1 hr with hhead | hbody
    · exact (mem_groupRows.1 hhead).tableAround?_eq (by decide) ht
    · rcases mem_bodyRows.1 hbody with hdirect | hbody
      · exact hdirect.tableAround?_eq ht
      · exact hbody.tableAround?_eq (by decide) ht
  · exact (mem_groupRows.1 hfoot).tableAround?_eq (by decide) ht

/-- **The rows of a table**, in their places: those of its heads, then those of its body, then those
of its feet. -/
theorem own_rows_once_in_display_order (ht : t.name = "table") :
    ∃ heads body feet : List Focus,
      (heads ++ body ++ feet).map here = t.here.ownRows ∧
      (heads ++ body ++ feet).Nodup ∧
      t.ListsOnce (t.IsGroupRowOf "thead") heads ∧
      t.ListsOnce (fun r => t.IsRowOf r ∨ t.IsGroupRowOf "tbody" r) body ∧
      t.ListsOnce (t.IsGroupRowOf "tfoot") feet ∧
      ∀ r ∈ heads ++ body ++ feet, r.tableAround? = some t ∧
        ∃ cells : List Focus, cells.map here = r.here.cells ∧
          r.ListsOnce (fun c => c.parent? = some r ∧ c.name ∈ ["td", "th"]) cells := by
  refine ⟨t.groupRows "thead", t.bodyRows, t.groupRows "tfoot", map_here_rows ht, nodup_rows ht,
    t.listsOnce_groupRows _, t.listsOnce_bodyRows, t.listsOnce_groupRows _, fun r hr => ?_⟩
  have hcells := r.map_here_childrenNamed ["td", "th"]
  exact ⟨tableAround?_of_mem_rows ht hr, _, hcells, r.listsOnce_childrenNamed _⟩

/-- A table in a cell of another table. Its groups of rows are mixed, and the cell of its first row
holds a table in turn. -/
def mixedTable : Focus :=
  let element (name : String) (nodes : List Node) : Node := .element ⟨name, .empty⟩ nodes
  let row (nodes : List Node) : Node := element "tr" [element "td" nodes]
  let text (content : String) : Node := .text .ordinary content
  { here := ⟨⟨"table", .empty⟩, [
      element "tfoot" [row [text "sum"]],
      row [text "land", element "table" [row [text "acres"]]],
      element "thead" [row [text "year"]],
      element "tbody" [row [text "building"]],
      element "thead" [row [text "value"]]]⟩
    above := [⟨⟨"td", .empty⟩, [], []⟩, ⟨⟨"tr", .empty⟩, [], []⟩, ⟨⟨"table", .empty⟩, [], []⟩] }

theorem own_rows_once_in_display_order_mixed :
    mixedTable.name = "table" ∧
      mixedTable.here.ownRows.map Element.text = ["year", "value", "landacres", "building", "sum"] ∧
      ∃ rows : List Focus, rows.map here = mixedTable.here.ownRows ∧ rows.Nodup ∧
        ∀ r ∈ rows, r.tableAround? = some mixedTable := by
  have hname : mixedTable.name = "table" := rfl
  obtain ⟨heads, body, feet, hrows, hnodup, -, -, -, hown⟩ := own_rows_once_in_display_order hname
  exact ⟨hname, by decide +kernel, _, hrows, hnodup, fun r hr => (hown r hr).1⟩

end ParcelRecords.Markup.Focus
