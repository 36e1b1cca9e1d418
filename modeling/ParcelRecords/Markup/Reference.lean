import ParcelRecords.Markup.Names
import ParcelRecords.Text.CodePoint

/-!
# Character references

References by name and by number, in running text and in attribute values. The two places differ: in
text a name runs as far as it can and is known or not as a whole; in an attribute value the longest
known beginning of a name is taken. In both a decimal number must not have too many digits.

## Main definitions

* `Markup.named?` and `Markup.shortNamed?` look names up.
* `Markup.decimal` reads a decimal number; `Markup.numbered` is the character of a number in text.
* `Markup.expand` replaces the references in an attribute value.
-/

namespace ParcelRecords.Markup

/-! ## Names -/

/-- The pieces of a text between blanks and line breaks. -/
def entriesOf (s : String) : List String :=
  (s.splitOn "\n").flatMap (·.splitOn " ")

/-- The characters of hexadecimal code points with plus signs between them. -/
def charactersOf (codes : String) : String :=
  String.ofList ((codes.splitOn "+").map fun c => Char.ofNat (Text.hexValue c.toList))

/-- The characters of every name. -/
def nameTable : List (String × String) :=
  (entriesOf nameLines).filterMap fun e =>
    match e.splitOn "=" with
    | [name, codes] => some (name, charactersOf codes)
    | _ => none

/-- The names known without a semicolon. -/
def shortNames : List String :=
  entriesOf shortNameLines

/-- The characters of a name. -/
def named? (name : List Char) : Option (List Char) :=
  (nameTable.lookup (String.ofList name)).map String.toList

/-- The characters of a name that stands without a semicolon. -/
def shortNamed? (name : List Char) : Option (List Char) :=
  if String.ofList name ∈ shortNames then named? name else none

/-! ## Numbers -/

/-- The characters that the numbers 128 to 159 stand for; a number without one stands for itself. -/
def upperControls : List Nat :=
  [0x20AC, 0x81, 0x201A, 0x0192, 0x201E, 0x2026, 0x2020, 0x2021, 0x02C6, 0x2030, 0x0160, 0x2039,
   0x0152, 0x8D, 0x017D, 0x8F, 0x90, 0x2018, 0x2019, 0x201C, 0x201D, 0x2022, 0x2013, 0x2014, 0x02DC,
   0x2122, 0x0161, 0x203A, 0x0153, 0x9D, 0x017E, 0x0178]

/-- The number that decimal digits write. If there are too many of them, their number is the error.
-/
def decimal (ds : List Char) : Except Nat Nat :=
  if Text.maxDigits < ds.length then .error ds.length else .ok (Text.decimalValue ds)

/-- The character in place of a number that has none. -/
def replacement : Char := '\uFFFD'

/-- The character of a number in text. Zero, a number beyond the last code point and half of a pair
have none. -/
def numbered (n : Nat) : Char :=
  if n = 0 ∨ 0x10FFFF < n ∨ Text.isSurrogate n then replacement
  else if 128 ≤ n ∧ n < 160 then Char.ofNat (upperControls.getD (n - 128) n)
  else Text.ofCodePoint n

/-- A number that an attribute value drops: a control other than the blank ones, or a code point
that is no character. -/
def isDropped (n : Nat) : Bool :=
  (1 ≤ n && n ≤ 8) || n = 11 || (14 ≤ n && n ≤ 31) || n = 127 || (0xFDD0 ≤ n && n ≤ 0xFDEF) ||
    (n ≤ 0x10FFFF && 0xFFFE ≤ n % 0x10000)

/-- The characters of a number in an attribute value. -/
def numberedInValue (n : Nat) : List Char :=
  if isDropped n then [] else [numbered n]

/-! ## Attribute values -/

/-- A character that ends a name in an attribute value. -/
def endsName (c : Char) : Bool :=
  c ∈ ['\t', '\n', '\x0c', ' ', '<', '&', '#', ';']

/-- The longest beginning of `name` of at most `n` characters, and at least two, that is known
without a semicolon, with its characters and the rest of the name. -/
def longestShort (name : List Char) : Nat → Option (List Char)
  | 0 | 1 => none
  | n + 2 =>
    match shortNamed? (name.take (n + 2)) with
    | some cs => some (cs ++ name.drop (n + 2))
    | none => longestShort name (n + 1)

/-- The text in place of a name in an attribute value, `closed` if a semicolon follows it. -/
def expandName (name : List Char) (closed : Bool) : List Char :=
  let semicolon := if closed then [';'] else []
  match if closed then named? name else shortNamed? name with
  | some cs => cs
  | none =>
    match longestShort name (if closed then name.length else name.length - 1) with
    | some cs => cs ++ semicolon
    | none => '&' :: name ++ semicolon

/-- A reference at the beginning of a text that follows an ampersand: what stands in its place, and
how many characters it has. -/
def reference? (cs : List Char) : Except Nat (Option (List Char × Nat)) :=
  let closing (n : Nat) : Nat := if cs[n]? = some ';' then n + 1 else n
  match cs with
  | '#' :: x :: rest =>
    if x = 'x' ∨ x = 'X' then
      match rest.takeWhile Text.isHexDigit with
      | [] => .ok none
      | ds => .ok (some (numberedInValue (Text.hexValue ds), closing (2 + ds.length)))
    else
      match (x :: rest).takeWhile Char.isDigit with
      | [] => .ok none
      | ds => (decimal ds).map fun n => some (numberedInValue n, closing (1 + ds.length))
  | _ =>
    match (cs.takeWhile fun c => !endsName c).take 32 with
    | [] => .ok none
    | name =>
      let length := closing name.length
      .ok (some (expandName name (name.length < length), length))

/-- Replaces the references, after leaving out `skip` characters of a reference already replaced. -/
def expandFrom (skip : Nat) : List Char → Except Nat (List Char)
  | [] => .ok []
  | c :: rest =>
    match skip with
    | skip + 1 => expandFrom skip rest
    | 0 =>
      if c = '&' then
        match reference? rest with
        | .error digits => .error digits
        | .ok (some (cs, length)) => (expandFrom length rest).map (cs ++ ·)
        | .ok none => (expandFrom 0 rest).map (c :: ·)
      else (expandFrom 0 rest).map (c :: ·)

/-- An attribute value with its references replaced. -/
def expand (cs : List Char) : Except Nat (List Char) :=
  expandFrom 0 cs

end ParcelRecords.Markup
