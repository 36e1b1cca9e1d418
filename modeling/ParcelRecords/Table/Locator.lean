import ParcelRecords.Selector.Match
import ParcelRecords.Table.Grid
import ParcelRecords.Table.Rows

/-!
# Finding tables

The one table that an entry speaks of: the first element that meets a selector, or else the table
around the required texts. Pages nest tables in tables for their layout, so that the tables around
the wanted one hold the same texts; of all those the least nested is taken.

## Main definitions

* `Markup.Document.tableWith?` finds a table by required texts.
* `Markup.Document.table?` finds a table by selector or texts.
* `Grid.ofTable?` is the grid of a table, the rows that a filter drops left out.
-/

namespace ParcelRecords

namespace Markup.Document

/-- Whether a text contains all parts, letter case aside. -/
def containsAll (parts : List String) (text : String) : Bool :=
  parts.all fun part => Text.occursIn (Text.lower part) (Text.lower text)

/-- The tables of a page whose text contains all parts, in document order. -/
def tablesWith (d : Document) (parts : List String) : List Focus :=
  (d.focus.elementsNamed "table").filter fun t => containsAll parts t.here.text

/-- The first of the least nested elements. -/
def leastNested? : List Focus → Option Focus
  | [] => none
  | f :: rest =>
    match leastNested? rest with
    | none => some f
    | some g => if f.nestingLevel ≤ g.nestingLevel then some f else some g

/-- The least nested table whose text contains all parts; of several the first. -/
def tableWith? (d : Document) (parts : List String) : Option Focus :=
  leastNested? (d.tablesWith parts)

/-- **Finding a table** by a selector, or without one by texts; without either there is none. -/
def table? (d : Document) (selector : Option String) (texts : Option (List String)) :
    Option Focus :=
  match selector.getD "", texts.getD [] with
  | "", [] => none
  | "", part :: parts => d.tableWith? (part :: parts)
  | selector, _ => d.focus.select? selector

end Markup.Document

/-- The grid of a table, the rows that a filter drops left out. -/
def Grid.ofTable? (table : Option Markup.Element) (shape : Shape) (filter : RowFilter) : Grid :=
  ⟨shape, table.map fun t => filter.keep t.cellTexts⟩

end ParcelRecords
