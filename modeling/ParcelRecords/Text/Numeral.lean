/-!
# Numerals

Reading and writing of natural numbers in decimal and hexadecimal digits.

## Main definitions

* `decimalValue` and `hexValue` read digits.
* `hexDigit?` is the value of one hexadecimal digit.
* `hexNumeral` writes hexadecimal digits.
* `maxDigits` is the number of decimal digits that are read at most.
-/

namespace ParcelRecords.Text

/-- The number that decimal digits write. -/
def decimalValue (ds : List Char) : Nat :=
  ds.foldl (fun n d => 10 * n + (d.toNat - 48)) 0

/-- The greatest number of decimal digits that are read as one number. -/
def maxDigits : Nat := 4300

/-- Why decimal digits are not read: there are too many of them. -/
def digitLimit (digits : Nat) : String :=
  "Exceeds the limit (" ++ toString maxDigits ++
    " digits) for integer string conversion: value has " ++ toString digits ++
    " digits; use sys.set_int_max_str_digits() to increase the limit"

/-- The value of a hexadecimal digit. -/
def hexDigit? (c : Char) : Option Nat :=
  if '0' ≤ c ∧ c ≤ '9' then some (c.toNat - 48)
  else if 'a' ≤ c ∧ c ≤ 'f' then some (c.toNat - 87)
  else if 'A' ≤ c ∧ c ≤ 'F' then some (c.toNat - 55)
  else none

/-- Whether a character is a hexadecimal digit. -/
def isHexDigit (c : Char) : Bool :=
  (hexDigit? c).isSome

/-- The number that hexadecimal digits write. -/
def hexValue (ds : List Char) : Nat :=
  ds.foldl (fun n d => 16 * n + (hexDigit? d).getD 0) 0

/-- The lowercase hexadecimal numeral of `n` with at least `width` digits. -/
def hexNumeral (width n : Nat) : List Char :=
  let digits := Nat.toDigits 16 n
  List.replicate (width - digits.length) '0' ++ digits

end ParcelRecords.Text
