import ParcelRecords.Json.Basic
import ParcelRecords.Text.CodePoint

/-!
# Reading JSON

Reads a JSON text into a value. Beyond the standard the three special numbers are read, a repeated
field of an object keeps its first place and its last value, and integers have a greatest length.

## Main definitions

* `Json.read` reads a whole text.
* `Json.ReadError` says why a text was refused.
* `Json.readValue` reads one value and gives what follows it.
-/

namespace ParcelRecords.Json

/-- Why a text was refused. -/
inductive ReadError where
  /-- The text is not well formed; the number of characters from the fault on. -/
  | malformed (left : Nat)
  | tooManyDigits (digits : Nat)
deriving DecidableEq

/-- The greatest number of digits of an integer. -/
def maxIntDigits : Nat := Text.maxDigits

/-- A blank between the tokens of a JSON text. -/
def isBlank (c : Char) : Bool :=
  c = ' ' || c = '\t' || c = '\n' || c = '\r'

/-- The text after its leading blanks. -/
def skipBlanks (cs : List Char) : List Char :=
  cs.dropWhile isBlank

/-! ## Strings -/

/-- The number that four hexadecimal digits write. -/
def hex4? (a b c d : Char) : Option Nat := do
  let a ← Text.hexDigit? a
  let b ← Text.hexDigit? b
  let c ← Text.hexDigit? c
  let d ← Text.hexDigit? d
  pure (((a * 16 + b) * 16 + c) * 16 + d)

/-- The character of a pair of UTF-16 units, the first of the upper and the second of the lower
half. -/
def pairChar? (high low : Nat) : Option Char :=
  if 0xD800 ≤ high ∧ high ≤ 0xDBFF ∧ 0xDC00 ≤ low ∧ low ≤ 0xDFFF then
    some (Text.ofCodePoint (0x10000 + (high - 0xD800) * 0x400 + (low - 0xDC00)))
  else none

/-- The character that a one-letter escape stands for. -/
def shortEscape? : Char → Option Char
  | '"' => some '"'
  | '\\' => some '\\'
  | '/' => some '/'
  | 'b' => some '\x08'
  | 'f' => some '\x0c'
  | 'n' => some '\n'
  | 'r' => some '\r'
  | 't' => some '\t'
  | _ => none

/-- Puts a character in front of the text of a string that was read. -/
def consChar (c : Char) :
    Except ReadError (List Char × List Char) → Except ReadError (List Char × List Char) :=
  Except.map fun r => (c :: r.1, r.2)

/-- Refuses a text for what begins with `cs`. -/
def malformedAt {α : Type} (cs : List Char) : Except ReadError α :=
  .error (.malformed cs.length)

/-- Reads a string after its opening quote. Half of a pair of units may stand alone. A string that
does not end is refused for its opening quote, with `left` characters from there on. -/
def readString (left : Nat) : List Char → Except ReadError (List Char × List Char)
  | [] | ['\\'] => .error (.malformed left)
  | '"' :: rest => .ok ([], rest)
  | '\\' :: 'u' :: a :: b :: c :: d :: rest =>
    match hex4? a b c d with
    | none => malformedAt ('u' :: a :: b :: c :: d :: rest)
    | some n =>
      match rest with
      | [] => malformedAt ['u', a, b, c, d]
      | ['\\', 'u', e, f, g, h] => malformedAt ['u', e, f, g, h]
      | '\\' :: 'u' :: e :: f :: g :: h :: rest' =>
        match (hex4? e f g h).bind (pairChar? n) with
        | some ch => consChar ch (readString left rest')
        | none =>
          consChar (Text.ofCodePoint n) (readString left ('\\' :: 'u' :: e :: f :: g :: h :: rest'))
      | rest => consChar (Text.ofCodePoint n) (readString left rest)
  | '\\' :: c :: rest =>
    match shortEscape? c with
    | some ch => consChar ch (readString left rest)
    | none => malformedAt (if c = 'u' then c :: rest else '\\' :: c :: rest)
  | c :: rest => if c.toNat < 32 then malformedAt (c :: rest) else consChar c (readString left rest)

/-! ## Numbers -/

/-- Reads the digits before the point: one zero, or digits that do not begin with one. -/
def readWhole : List Char → Option (List Char × List Char)
  | '0' :: rest => some (['0'], rest)
  | c :: rest =>
    if c.isDigit then some ((c :: rest).takeWhile Char.isDigit, (c :: rest).dropWhile Char.isDigit)
    else none
  | [] => none

/-- Reads a point with at least one digit after it, if there is one. -/
def readFraction : List Char → Option (List Char × List Char)
  | '.' :: c :: rest =>
    if c.isDigit then some ((c :: rest).takeWhile Char.isDigit, (c :: rest).dropWhile Char.isDigit)
    else none
  | _ => none

/-- Reads a sign and at least one digit. -/
def readPower (cs : List Char) : Option (Int × List Char) :=
  let (negative, ds) :=
    match cs with
    | '-' :: rest => (true, rest)
    | '+' :: rest => (false, rest)
    | cs => (false, cs)
  match ds.takeWhile Char.isDigit with
  | [] => none
  | digits =>
    let n : Int := Text.decimalValue digits
    some (if negative then -n else n, ds.dropWhile Char.isDigit)

/-- Reads an exponent, if there is one. -/
def readExponent : List Char → Option (Int × List Char)
  | c :: rest => if c = 'e' ∨ c = 'E' then readPower rest else none
  | [] => none

/-- Reads a number after its sign. Without fraction and exponent it is an integer. -/
def readNumber (negative : Bool) (cs : List Char) : Except ReadError (Json × List Char) :=
  match readWhole cs with
  | none => .error (.malformed (cs.length + if negative then 1 else 0))
  | some (whole, afterWhole) =>
    let fraction := readFraction afterWhole
    let afterFraction := (fraction.map Prod.snd).getD afterWhole
    let power := readExponent afterFraction
    let rest := (power.map Prod.snd).getD afterFraction
    if fraction.isNone && power.isNone then
      if maxIntDigits < whole.length then .error (.tooManyDigits whole.length)
      else
        let n : Int := Text.decimalValue whole
        .ok (.int (if negative then -n else n), rest)
    else
      let places := (fraction.map Prod.fst).getD []
      let c := Text.decimalValue (whole ++ places)
      .ok (.float (Binary64.ofDecimal negative c ((power.map Prod.fst).getD 0 - places.length)),
        rest)

/-! ## Values -/

/-- What follows `word`, if the text begins with it. -/
def afterWord? (word cs : List Char) : Option (List Char) :=
  if word.isPrefixOf cs then some (cs.drop word.length) else none

/-- The words that are values of their own. -/
def wordValues : List (List Char × Json) :=
  [("null".toList, .null), ("true".toList, .bool true), ("false".toList, .bool false),
   ("NaN".toList, .float .nan), ("Infinity".toList, .float (.infinite false)),
   ("-Infinity".toList, .float (.infinite true))]

/-- Reads a value that is a word or a number. -/
def readAtom (cs : List Char) : Except ReadError (Json × List Char) :=
  match wordValues.findSome? (fun w => (afterWord? w.1 cs).map fun rest => (w.2, rest)) with
  | some r => .ok r
  | none =>
    match cs with
    | '-' :: rest => readNumber true rest
    | cs => readNumber false cs

mutual

/-- Reads one value and gives what follows it. The fuel bounds the number of steps. -/
def readValue : Nat → List Char → Except ReadError (Json × List Char)
  | 0, cs => malformedAt cs
  | fuel + 1, cs =>
    match cs with
    | '"' :: rest => (readString cs.length rest).map fun r => (.str (String.ofList r.1), r.2)
    | '[' :: rest =>
      match skipBlanks rest with
      | ']' :: rest => .ok (.arr [], rest)
      | rest => (readItems fuel rest).map fun r => (.arr r.1, r.2)
    | '{' :: rest =>
      match skipBlanks rest with
      | '}' :: rest => .ok (.obj [], rest)
      | rest => (readFields fuel rest).map fun r => (.obj (OrderedMap.ofList r.1).entries, r.2)
    | cs => readAtom cs

/-- Reads the items of a list, at least one, and its closing bracket. -/
def readItems : Nat → List Char → Except ReadError (List Json × List Char)
  | 0, cs => malformedAt cs
  | fuel + 1, cs => do
    let (item, rest) ← readValue fuel cs
    match skipBlanks rest with
    | ']' :: rest => .ok ([item], rest)
    | ',' :: rest => (readItems fuel (skipBlanks rest)).map fun r => (item :: r.1, r.2)
    | rest => malformedAt rest

/-- Reads the fields of an object, at least one, and its closing brace. -/
def readFields : Nat → List Char → Except ReadError (List (String × Json) × List Char)
  | 0, cs => malformedAt cs
  | fuel + 1, cs =>
    match cs with
    | '"' :: rest => do
      let (key, rest) ← readString cs.length rest
      match skipBlanks rest with
      | ':' :: rest =>
        let (value, rest) ← readValue fuel (skipBlanks rest)
        let field := (String.ofList key, value)
        match skipBlanks rest with
        | '}' :: rest => .ok ([field], rest)
        | ',' :: rest => (readFields fuel (skipBlanks rest)).map fun r => (field :: r.1, r.2)
        | rest => malformedAt rest
      | rest => malformedAt rest
    | cs => malformedAt cs

end

/-- Reads a whole text: one value with nothing but blanks around it. Every character takes two steps
at most, so there is fuel enough. -/
def read (s : String) : Except ReadError Json :=
  let cs := skipBlanks s.toList
  match readValue (2 * cs.length + 1) cs with
  | .error e => .error e
  | .ok (value, rest) =>
    match skipBlanks rest with
    | [] => .ok value
    | rest => malformedAt rest

end ParcelRecords.Json
