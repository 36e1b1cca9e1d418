import ParcelRecords.Markup.Focus

/-!
# Rows of a table

The rows that belong to a table itself, in the order in which they are shown, and their cells. Rows
of tables inside its cells are no rows of the table.

## Main definitions

* `Element.ownRows` lists the rows of a table or of a group of rows.
* `Element.cells` lists the cells of a row.
* `Element.cellTexts` gives the text content of all cells, row by row.
-/

namespace ParcelRecords.Markup.Element

/-- The names of groups of rows. -/
def groupNames : List String := ["thead", "tbody", "tfoot"]

/-- The rows that a child of a table adds to the body: itself, or those of a group. -/
def bodyRows (child : Element) : List Element :=
  if child.name = "tr" then [child]
  else if child.name = "tbody" then child.childrenNamed ["tr"]
  else []

/-- The rows in the groups of a name, in order. -/
def groupRows (table : Element) (group : String) : List Element :=
  (table.childrenNamed [group]).flatMap fun g => g.childrenNamed ["tr"]

/-- **The rows of a table**: those of its heads, then all others in order, then those of its feet. A
group of rows has its own ones. -/
def ownRows (table : Element) : List Element :=
  if table.name ∈ groupNames then table.childrenNamed ["tr"]
  else
    table.groupRows "thead" ++ table.childElements.flatMap bodyRows ++ table.groupRows "tfoot"

/-- The cells of a row. -/
def cells (row : Element) : List Element :=
  row.childrenNamed ["td", "th"]

/-- The text content of the cells, row by row. -/
def cellTexts (table : Element) : List (List String) :=
  table.ownRows.map fun row => row.cells.map text

end ParcelRecords.Markup.Element
