import ParcelRecords.Text.Blank

/-!
# Integers written as text

An integer in a configured text: blanks around it, an optional sign, digits that single underscores
may group, and an optional point with nothing but zeros after it.

## Main definitions

* `integer?` reads such a text.
-/

namespace ParcelRecords.Text

/-- A blank around a written integer; the information separators are none. -/
def isSpace (c : Char) : Bool :=
  isBlank c && !(28 ≤ c.toNat && c.toNat ≤ 31)

/-- The number that digits write after `n`, single underscores between digits allowed. -/
def groupedDigits (n : Nat) : List Char → Option Nat
  | [] => some n
  | '_' :: c :: rest => if c.isDigit then groupedDigits (10 * n + (c.toNat - 48)) rest else none
  | c :: rest => if c.isDigit then groupedDigits (10 * n + (c.toNat - 48)) rest else none

/-- The natural number that a text of at least one digit writes. -/
def natural? (cs : List Char) : Option Nat :=
  match cs with
  | c :: _ => if c.isDigit then groupedDigits 0 cs else none
  | [] => none

/-- The integer that a text writes, if it writes one. -/
def integer? (s : String) : Option Int :=
  let cs := ((s.toList.dropWhile isSpace).reverse.dropWhile isSpace).reverse
  let (negative, cs) :=
    match cs with
    | '-' :: rest => (true, rest)
    | '+' :: rest => (false, rest)
    | cs => (false, cs)
  let whole := cs.takeWhile (· ≠ '.')
  let zeros := (cs.dropWhile (· ≠ '.')).drop 1
  if zeros.all (· = '0') then
    (natural? whole).map fun n => if negative then -(n : Int) else n
  else none

end ParcelRecords.Text
