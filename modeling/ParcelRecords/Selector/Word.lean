import ParcelRecords.Text.CodePoint

/-!
# Words of selectors

Names, values and gaps as selectors write them. Comments count as gaps, and any character can stand
in a name when it is escaped.

## Main definitions

* `Selector.skipGap` passes over blanks and comments.
* `Selector.afterIdentifier?` and `Selector.afterValue?` tell where a name or a value ends.
* `Selector.unescape` resolves escapes.
-/

namespace ParcelRecords.Selector

/-- The beginning of `cs` up to where `rest` begins. -/
def upTo (cs rest : List Char) : List Char :=
  cs.take (cs.length - rest.length)

/-! ## Gaps -/

/-- A line break. -/
def isBreak (c : Char) : Bool :=
  c ∈ ['\n', '\x0c', '\r']

/-- A blank of a selector. -/
def isSpace (c : Char) : Bool :=
  c = ' ' || c = '\t' || isBreak c

/-- What follows a comment, from behind its beginning on. -/
def afterComment? : List Char → Option (List Char)
  | [] => none
  | '*' :: '/' :: rest => some rest
  | _ :: rest => afterComment? rest

/-- Passes over blanks and comments; tells whether there was a blank. Every step takes a character,
so the length of the text is fuel enough. -/
def skipGapFrom (blank : Bool) (cs : List Char) : Nat → Bool × List Char
  | 0 => (blank, cs)
  | fuel + 1 =>
    match cs with
    | [] => (blank, [])
    | c :: rest =>
      if isSpace c then skipGapFrom true rest fuel
      else
        match c, rest with
        | '/', '*' :: inner =>
          match afterComment? inner with
          | some rest => skipGapFrom blank rest fuel
          | none => (blank, cs)
        | _, _ => (blank, cs)

/-- Passes over blanks and comments; tells whether there was a blank. -/
def skipGap (cs : List Char) : Bool × List Char :=
  skipGapFrom false cs cs.length

/-- What follows blanks and comments. -/
def afterGap (cs : List Char) : List Char :=
  (skipGap cs).2

/-- The length of the longest ending that consists of blanks and comments. -/
def finalGap : List Char → Nat
  | [] => 0
  | c :: rest => if afterGap (c :: rest) = [] then rest.length + 1 else finalGap rest

/-! ## Escapes -/

/-- What follows one blank, a line break of two characters taken as one. -/
def afterSpace : List Char → List Char
  | '\r' :: '\n' :: rest => rest
  | c :: rest => if isSpace c then rest else c :: rest
  | [] => []

/-- What follows an escape, from behind the backslash on: up to six hexadecimal digits and a blank,
or one character, or nothing at the end of the text. -/
def afterEscape? (cs : List Char) : Option (List Char) :=
  match (cs.take 6).takeWhile Text.isHexDigit with
  | [] =>
    match cs with
    | [] => some []
    | ['\n'] => some ['\n']
    | c :: rest => if isBreak c then none else some rest
  | ds => some (afterSpace (cs.drop ds.length))

/-- The character in place of an escape that names none. -/
def replacement : Char := '\uFFFD'

/-- The character that an escape stands for. -/
def escaped? (cs : List Char) : Option Char :=
  match cs.takeWhile Text.isHexDigit, cs with
  | [], [] => some replacement
  | [], c :: _ => some c
  | ds, _ =>
    let n := Text.hexValue ds
    if n = 0 then some replacement
    else if 0x10FFFF < n then none
    else some (Text.ofCodePoint n)

/-- Resolves escapes; in a string an escaped line break stands for nothing. -/
def unescapeFrom (inString : Bool) (cs : List Char) : Nat → Option (List Char)
  | 0 => some []
  | fuel + 1 =>
    match cs with
    | [] => some []
    | c :: rest =>
      if c = '\\' then
        match afterEscape? rest with
        | some after => do
          let d ← escaped? (upTo rest after)
          let more ← unescapeFrom inString after fuel
          pure (d :: more)
        | none =>
          if inString then unescapeFrom inString (afterSpace rest) fuel
          else (unescapeFrom inString rest fuel).map (c :: ·)
      else (unescapeFrom inString rest fuel).map (c :: ·)

/-- Resolves escapes. An escape beyond the last code point makes the text invalid. -/
def unescape (inString : Bool) (cs : List Char) : Option (List Char) :=
  unescapeFrom inString cs cs.length

/-! ## Names -/

/-- A character that a name may begin with. -/
def startsName (c : Char) : Bool :=
  c.isAlpha || c = '_' || 0xA0 ≤ c.toNat

/-- A character that a name may go on with. -/
def continuesName (c : Char) : Bool :=
  startsName c || c.isDigit || c = '-'

/-- What follows one character of a class, or an escape. -/
def afterUnit? (allowed : Char → Bool) : List Char → Option (List Char)
  | [] => none
  | '\\' :: rest => afterEscape? rest
  | c :: rest => if allowed c then some rest else none

/-- What follows the rest of a name. Every step takes a character. -/
def afterNameFrom (cs : List Char) : Nat → List Char
  | 0 => cs
  | fuel + 1 =>
    match afterUnit? continuesName cs with
    | some rest => afterNameFrom rest fuel
    | none => cs

/-- What follows a name, if there is one. -/
def afterIdentifier? (cs : List Char) : Option (List Char) :=
  let start := match cs with
    | '-' :: '-' :: rest => some rest
    | '-' :: rest => afterUnit? startsName rest
    | _ => afterUnit? startsName cs
  start.map fun rest => afterNameFrom rest rest.length

/-- A name with its escapes resolved, and what follows it. -/
def identifier? (cs : List Char) : Option (String × List Char) := do
  let rest ← afterIdentifier? cs
  let name ← unescape false (upTo cs rest)
  pure (String.ofList name, rest)

/-! ## Values -/

/-- What follows a string, from behind its opening quote on. -/
def afterQuoted? (quote : Char) (cs : List Char) : Nat → Option (List Char)
  | 0 => none
  | fuel + 1 =>
    match cs with
    | [] | ['\\'] => none
    | '\\' :: '\r' :: '\n' :: rest => afterQuoted? quote rest fuel
    | '\\' :: _ :: rest => afterQuoted? quote rest fuel
    | c :: rest =>
      if c = quote then some rest
      else if isBreak c then none
      else afterQuoted? quote rest fuel

/-- What follows a value, which is a string or a name. -/
def afterValue? (cs : List Char) : Option (List Char) :=
  match cs with
  | c :: rest =>
    if c = '"' ∨ c = '\'' then afterQuoted? c rest (rest.length + 1) else afterIdentifier? cs
  | [] => none

/-- The text that a value stands for. -/
def valueText? (value : List Char) : Option String :=
  match value with
  | c :: rest =>
    if c = '"' ∨ c = '\'' then (unescape true rest.dropLast).map String.ofList
    else (unescape false value).map String.ofList
  | [] => some ""

end ParcelRecords.Selector
