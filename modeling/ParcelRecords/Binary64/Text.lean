import ParcelRecords.Binary64.Basic

/-!
# The text of a binary number

A number is written with the fewest digits that read back as the same number; of those with equally
many digits, the nearest one, and of two equally near the one with an even last digit.

## Main definitions

* `Binary64.shortest` finds the digits and their exponent.
* `NumberStyle` says where positional writing ends and how the special numbers are spelled.
* `Binary64.toText` writes a number in a style.
-/

namespace ParcelRecords

namespace Binary64

/-- The least `k` with `num / den < 10^k`, looked for at `k₀`, `k₀ + 1` and `k₀ + 2`. -/
def magnitudeFrom (num den : Nat) (k₀ : Int) : Int :=
  let below (k : Int) : Bool := num * Nat.pow 10 (-k).toNat < den * Nat.pow 10 k.toNat
  if below k₀ then k₀ else if below (k₀ + 1) then k₀ + 1 else k₀ + 2

/-- The number of digits before the point of the magnitude of rank `r`; zero or less if it begins
after the point. The binary logarithm of the magnitude gives a first guess. -/
def pointPosition (r : Nat) : Int :=
  let log2 : Int := (units r).log2 - unitBits
  magnitudeFrom (units r) (Nat.pow 2 unitBits) (Int.fdiv (log2 * 30103) 100000)

/-- Whether `c · 10^e` reads back as the magnitude of rank `r`. -/
def readsBack (r c : Nat) (e : Int) : Bool :=
  ofDecimal false c e == ofRank false r

/-- The multiple of `10^e` that stands for the magnitude of rank `r`, if one of the two multiples
around it reads back. -/
def decimalAt? (r : Nat) (e : Int) : Option Nat :=
  let num := units r * Nat.pow 10 (-e).toNat
  let den := Nat.pow 2 unitBits * Nat.pow 10 e.toNat
  let low := num / den
  let rest := num % den
  let preferred := if 2 * rest < den ∨ (2 * rest = den ∧ low % 2 = 0) then low else low + 1
  let other := if preferred = low then low + 1 else low
  if readsBack r preferred e then some preferred
  else if readsBack r other e then some other
  else none

/-- The exact decimal expansion of the magnitude of rank `r`. -/
def exactDecimal (r : Nat) : Nat × Int :=
  (units r * Nat.pow 5 unitBits, -unitBits)

/-- The shortest digits of the magnitude of rank `r`, with `digits` more digits to try after `n`.
The exact decimal expansion closes the search. -/
def shortestFrom (r : Nat) (point : Int) (n : Nat) : Nat → Nat × Int
  | 0 => exactDecimal r
  | digits + 1 =>
    match decimalAt? r (point - n) with
    | some c => (c, point - n)
    | none => shortestFrom r point (n + 1) digits

/-- Digits `c` and an exponent `e` with `c · 10^e` standing for the magnitude of rank `r`. Seventeen
digits are enough for every magnitude. -/
def shortest (r : Nat) : Nat × Int :=
  shortestFrom r (pointPosition r) 1 17

end Binary64

/-- How numbers are spelled. -/
structure NumberStyle where
  /-- The least power of ten of a leading digit that is written positionally. -/
  positionalFrom : Int
  /-- The least power of ten of a leading digit, above it, that is written with an exponent. -/
  positionalUntil : Int
  /-- The least number of digits of a written exponent. -/
  exponentDigits : Nat
  nan : String
  infinity : String

/-- Numbers in page values and cells. -/
def NumberStyle.cell : NumberStyle := ⟨-4, 16, 2, "nan", "inf"⟩

/-- Numbers in JSON text; the last two are no JSON, yet they are written and read. -/
def NumberStyle.json : NumberStyle := ⟨-4, 16, 2, "NaN", "Infinity"⟩

namespace Binary64

/-- The digits of `c` and the power of ten of the leading one, trailing zeros dropped. -/
def scientific (c : Nat) (e : Int) : List Char × Int :=
  let digits := Nat.toDigits 10 c
  let kept := (digits.reverse.dropWhile (· = '0')).reverse
  (if kept.isEmpty then ['0'] else kept, e + digits.length - 1)

/-- A finite magnitude from its digits and the power of ten of the leading one. -/
def magnitudeText (style : NumberStyle) (digits : List Char) (lead : Int) : List Char :=
  let n := digits.length
  if style.positionalFrom ≤ lead ∧ lead < style.positionalUntil then
    if lead < 0 then '0' :: '.' :: List.replicate (-lead - 1).toNat '0' ++ digits
    else if (n : Int) ≤ lead + 1 then
      digits ++ List.replicate (lead.toNat + 1 - n) '0' ++ ['.', '0']
    else digits.take (lead.toNat + 1) ++ '.' :: digits.drop (lead.toNat + 1)
  else
    let power := Nat.toDigits 10 lead.natAbs
    let fraction := if n = 1 then [] else '.' :: digits.drop 1
    digits.take 1 ++ fraction ++ 'e' :: (if lead < 0 then '-' else '+') ::
      (List.replicate (style.exponentDigits - power.length) '0' ++ power)

/-- The text of a number. -/
def toText (style : NumberStyle) : Binary64 → String
  | .nan => style.nan
  | .infinite negative => if negative then "-" ++ style.infinity else style.infinity
  | .finite negative r =>
    let (digits, lead) :=
      if r.val = 0 then (['0'], 0)
      else
        let (c, e) := shortest r.val
        scientific c e
    String.ofList ((if negative then ['-'] else []) ++ magnitudeText style digits lead)

end Binary64

end ParcelRecords
