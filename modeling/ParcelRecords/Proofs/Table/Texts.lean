import ParcelRecords.Table.Rows

/-!
# Tables of texts

Whatever texts are wanted row by row, there is a table that has them: one row element for each row
and one cell element for each text. What is to be shown of all tables can be refuted on the rows
alone.

## Main definitions

* `Element.rowOfTexts`, `Element.ofTexts`: the row and the table with the given cell texts

## Main results

* `Element.ownRows_ofTexts`, `Element.texts_rowOfTexts`: the rows of the table and their cell texts
-/

namespace ParcelRecords.Markup.Element

/-- The row with the given cell texts. -/
def rowOfTexts (cells : List String) : Element :=
  ⟨⟨"tr", .empty⟩, cells.map fun s => .element ⟨"td", .empty⟩ [.text .ordinary s]⟩

/-- The table with the given cell texts, row by row. -/
def ofTexts (rows : List (List String)) : Element :=
  ⟨⟨"table", .empty⟩, rows.map fun cells =>
    .element (rowOfTexts cells).tag (rowOfTexts cells).children⟩

theorem texts_rowOfTexts (cells : List String) : (rowOfTexts cells).cells.map text = cells := by
  induction cells with
  | nil => rfl
  | cons s rest ih =>
    have hcells : (rowOfTexts (s :: rest)).cells =
        ⟨⟨"td", .empty⟩, [.text .ordinary s]⟩ :: (rowOfTexts rest).cells := rfl
    have htext : text ⟨⟨"td", .empty⟩, [.text .ordinary s]⟩ = s := String.append_empty
    rw [hcells, List.map_cons, ih, htext]

theorem childElements_ofTexts (rows : List (List String)) :
    (ofTexts rows).childElements = rows.map rowOfTexts := by
  rw [childElements, ofTexts, List.filterMap_map]
  exact congrFun List.filterMap_eq_map rows

theorem ownRows_ofTexts (rows : List (List String)) :
    (ofTexts rows).ownRows = rows.map rowOfTexts := by
  -- the children are rows, so that there are no groups
  have hgroup (group : String) (hne : group ≠ "tr") : (ofTexts rows).groupRows group = [] := by
    have hnamed : (ofTexts rows).childrenNamed [group] = [] := by
      rw [childrenNamed, childElements_ofTexts, List.filter_eq_nil_iff]
      intro row hrow
      obtain ⟨cells, -, rfl⟩ := List.mem_map.1 hrow
      have hname : (rowOfTexts cells).name = "tr" := rfl
      simpa [hname] using Ne.symm hne
    rw [groupRows, hnamed, List.flatMap_nil]
  have hrow : ∀ cells, bodyRows (rowOfTexts cells) = [rowOfTexts cells] := fun _ => rfl
  have htable : (ofTexts rows).name ∉ groupNames := by
    show "table" ∉ groupNames
    decide
  rw [ownRows, if_neg htable, hgroup "thead" (by decide), hgroup "tfoot" (by decide),
    childElements_ofTexts, List.nil_append, List.append_nil, List.flatMap_map]
  simp only [hrow]
  exact List.map_eq_flatMap.symm

end ParcelRecords.Markup.Element
