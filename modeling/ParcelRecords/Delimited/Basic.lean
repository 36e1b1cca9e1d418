/-!
# Delimited text

Rows of cells as text: cells with a delimiter between them, rows with a terminator after each. A
cell stands in quotes, its own quotes doubled, if it holds the delimiter, a quote or a character of
the terminator; a row of one empty cell is written as empty quotes, so that it differs from an empty
row.

## Main definitions

* `Delimited.Dialect` is a delimiter with a terminator; `Dialect.tabs` and `Dialect.commas` are the
  two in use.
* `Delimited.encodeRows` writes rows.
-/

namespace ParcelRecords.Delimited

/-- What separates cells and what ends rows. -/
structure Dialect where
  delimiter : Char
  terminator : List Char

/-- Tabs between cells, a line feed after each row. -/
def Dialect.tabs : Dialect := ⟨'\t', ['\n']⟩

/-- Commas between cells, a carriage return and a line feed after each row. -/
def Dialect.commas : Dialect := ⟨',', ['\r', '\n']⟩

/-- The character that quotes cells. -/
def quote : Char := '"'

/-- Whether a cell has to stand in quotes. -/
def needsQuotes (d : Dialect) (cell : List Char) : Bool :=
  cell.any fun c => c = d.delimiter || c = quote || c ∈ d.terminator

/-- The text inside quotes: a quote is written twice, all else once. -/
def doubleQuotes (cell : List Char) : List Char :=
  cell.flatMap fun c => if c = quote then [quote, quote] else [c]

/-- A cell as written. -/
def encodeCell (d : Dialect) (cell : List Char) : List Char :=
  if needsQuotes d cell then quote :: doubleQuotes cell ++ [quote] else cell

/-- Further cells, a delimiter before each. -/
def encodeCells (d : Dialect) (cells : List (List Char)) : List Char :=
  cells.flatMap fun cell => d.delimiter :: encodeCell d cell

/-- A row as written, without its terminator. -/
def encodeRow (d : Dialect) : List (List Char) → List Char
  | [] => []
  | [[]] => [quote, quote]
  | cell :: cells => encodeCell d cell ++ encodeCells d cells

/-- Rows as written, a terminator after each. -/
def encodeRows (d : Dialect) (rows : List (List (List Char))) : List Char :=
  rows.flatMap fun row => encodeRow d row ++ d.terminator

/-- The text of rows of cells. -/
def encode (d : Dialect) (rows : List (List String)) : String :=
  String.ofList (encodeRows d (rows.map (·.map String.toList)))

end ParcelRecords.Delimited
