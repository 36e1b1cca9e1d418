import ParcelRecords.Delimited.Basic

/-!
# Reading delimited text

Reads rows of cells back from text. A cell that begins with a quote runs to the next quote that is
not doubled; outside quotes a delimiter ends a cell and a row break ends a row. An empty line is a
row without cells, and the last row may go without its break.

## Main definitions

* `Delimited.RowBreak` says which characters end a row.
* `Delimited.readRows` reads rows from characters, `Delimited.decode` from text.
-/

namespace ParcelRecords.Delimited

/-- What ends a row outside quotes. -/
inductive RowBreak where
  /-- A line feed and nothing else. -/
  | lineFeed
  /-- A carriage return followed by a line feed. -/
  | pair
  /-- A carriage return, a line feed, or both in this order. -/
  | any
deriving DecidableEq

/-- Whether one character ends a row by itself. -/
def RowBreak.endsAt (b : RowBreak) (c : Char) : Bool :=
  match b with
  | .lineFeed => c = '\n'
  | .pair => false
  | .any => c = '\n' || c = '\r'

/-- Whether a carriage return with a line feed ends one row. -/
def RowBreak.joinsPair (b : RowBreak) : Bool :=
  b ≠ .lineFeed

/-- Where the reader stands. -/
inductive Place where
  /-- At the beginning of a row. -/
  | rowStart
  /-- At the beginning of a later cell. -/
  | cellStart
  /-- Inside a cell without quotes. -/
  | bare
  /-- Inside quotes. -/
  | quoted
  /-- After a quote that may end the cell or be the first of two. -/
  | closing
deriving DecidableEq

/-- What was read of a row: its finished cells and the one under way, both in order. -/
structure Pending where
  place : Place
  cells : List (List Char)
  cell : List Char

/-- A row of which nothing is read. -/
def Pending.fresh : Pending := ⟨.rowStart, [], []⟩

/-- The row as it stands; at its beginning it has no cell. -/
def Pending.row (p : Pending) : List (List Char) :=
  if p.place = .rowStart then [] else p.cells ++ [p.cell]

/-- One more character that is no row break. -/
def Pending.step (delimiter : Char) (p : Pending) (c : Char) : Pending :=
  match p.place with
  | .quoted => if c = quote then { p with place := .closing } else { p with cell := p.cell ++ [c] }
  | .closing =>
    if c = quote then { p with place := .quoted, cell := p.cell ++ [c] }
    else if c = delimiter then ⟨.cellStart, p.cells ++ [p.cell], []⟩
    else ⟨.bare, p.cells, p.cell ++ [c]⟩
  | .bare =>
    if c = delimiter then ⟨.cellStart, p.cells ++ [p.cell], []⟩
    else { p with cell := p.cell ++ [c] }
  | _ =>
    if c = quote then { p with place := .quoted }
    else if c = delimiter then ⟨.cellStart, p.cells ++ [p.cell], []⟩
    else ⟨.bare, p.cells, p.cell ++ [c]⟩

/-- Reads rows, the first of them already begun. -/
def readRowsFrom (delimiter : Char) (b : RowBreak) (p : Pending) :
    List Char → List (List (List Char))
  | [] => if p.place = .rowStart then [] else [p.row]
  | '\r' :: '\n' :: rest =>
    if p.place ≠ .quoted ∧ b.joinsPair then p.row :: readRowsFrom delimiter b .fresh rest
    else if p.place ≠ .quoted ∧ b.endsAt '\r' then
      p.row :: readRowsFrom delimiter b .fresh ('\n' :: rest)
    else readRowsFrom delimiter b (p.step delimiter '\r') ('\n' :: rest)
  | c :: rest =>
    if p.place ≠ .quoted ∧ b.endsAt c then p.row :: readRowsFrom delimiter b .fresh rest
    else readRowsFrom delimiter b (p.step delimiter c) rest

/-- The rows of a text. -/
def readRows (delimiter : Char) (b : RowBreak) (cs : List Char) : List (List (List Char)) :=
  readRowsFrom delimiter b .fresh cs

/-- The rows of a text, as text cells. -/
def decode (delimiter : Char) (b : RowBreak) (s : String) : List (List String) :=
  (readRows delimiter b s.toList).map (·.map String.ofList)

end ParcelRecords.Delimited
