import ParcelRecords.Markup.Reference
import ParcelRecords.OrderedMap
import ParcelRecords.Text.Blank
import ParcelRecords.Text.Lower
import ParcelRecords.Text.Quoted

/-!
# Markup events

Reads markup from left to right into texts, tags and breaks between texts. Nothing is repaired: what
is no markup is text.

## Main definitions

* `Markup.Event` is a text, an opening or closing tag, or a break.
* `Markup.Rejection` says why markup is refused as a whole.
* `Markup.scan` reads markup into events.
-/

namespace ParcelRecords.Markup

/-- What markup consists of. -/
inductive Event where
  | text (content : List Char)
  /-- The text of a marked section. -/
  | markedText (content : List Char)
  | opening (name : String) (attributes : OrderedMap String) (closesItself : Bool)
  | closing (name : String)
  /-- A comment, a declaration or an instruction. -/
  | mark

/-- Why markup is refused. -/
inductive Rejection where
  /-- A marked section of no known kind; its kind as written. -/
  | unknownSection (keyword : String)
  /-- A marked section without a kind; the beginning of its text. -/
  | namelessSection (beginning : String)
  /-- A reference by a decimal number with too many digits; how many there are. -/
  | numberTooLong (digits : Nat)
deriving DecidableEq

/-- What is said of markup with a faulty section. -/
def Rejection.ofSection (fault : String) : String :=
  "The markup you provided was rejected by the parser. Trying a different parser or a different " ++
  "encoding may help.\n\nOriginal exception(s) from parser:\n AssertionError: " ++ fault

/-- The wording of a rejection. -/
def Rejection.message : Rejection → String
  | .unknownSection keyword =>
    ofSection ("unknown status keyword " ++ Text.quoted keyword ++ " in marked section")
  | .namelessSection beginning => ofSection ("expected name token at " ++ Text.quoted beginning)
  | .numberTooLong digits => Text.digitLimit digits

/-! ## Characters and searches -/

/-- A letter of the ASCII alphabet. -/
def isLetter (c : Char) : Bool :=
  c.isAlpha

/-- What follows the first `>`. -/
def afterClose? : List Char → Option (List Char)
  | [] => none
  | '>' :: rest => some rest
  | _ :: rest => afterClose? rest

/-- What follows the characters `marks`, blanks allowed before each, if the text begins with them.
-/
def afterMarks? (marks : List Char) (cs : List Char) : Option (List Char) :=
  match marks with
  | [] => some cs
  | m :: marks =>
    match cs.dropWhile Text.isBlank with
    | [] => none
    | c :: rest => if c = m then afterMarks? marks rest else none

/-- The text before the first place where a closing sequence begins, and what follows it. -/
def splitBefore? (closing : List Char → Option (List Char)) :
    List Char → Option (List Char × List Char)
  | [] => (closing []).map fun rest => ([], rest)
  | c :: cs =>
    match closing (c :: cs) with
    | some rest => some ([], rest)
    | none => (splitBefore? closing cs).map fun r => (c :: r.1, r.2)

/-- The end of a comment. -/
def commentEnd? : List Char → Option (List Char)
  | '-' :: '-' :: rest => afterMarks? ['>'] rest
  | _ => none

/-- The end of a marked section with two brackets. -/
def sectionEnd? : List Char → Option (List Char)
  | ']' :: rest => afterMarks? [']', '>'] rest
  | _ => none

/-- The end of a conditional section. -/
def conditionEnd? : List Char → Option (List Char)
  | ']' :: rest => afterMarks? ['>'] rest
  | _ => none

/-- The end tag of an element whose content is raw. -/
def rawEnd? (name : String) : List Char → Option (List Char)
  | '<' :: '/' :: rest =>
    let rest := rest.dropWhile Text.isBlank
    let word := rest.take name.length
    if Text.lowerAscii (String.ofList word) = name then afterMarks? ['>'] (rest.drop name.length)
    else none
  | _ => none

/-! ## Tags -/

/-- A character that ends the name of a tag. -/
def endsTagName (c : Char) : Bool :=
  c ∈ ['\t', '\n', '\r', '\x0c', ' ', '/', '>', '\x00']

/-- Skips blanks and slashes, but not the slash of a final `/>`. Gives the last character read. -/
def skipGap (last : Char) : List Char → Char × List Char
  | [] => (last, [])
  | '/' :: '>' :: rest => (last, '/' :: '>' :: rest)
  | c :: rest => if Text.isBlank c || c = '/' then skipGap c rest else (last, c :: rest)

/-- A part of a tag that was read: its text, the last character read, and what follows. -/
structure Part where
  text : List Char
  last : Char
  rest : List Char

/-- The value of an attribute after its equals signs: in quotes, or up to a blank or `>`. Nothing if
the value begins with a quote that is not closed. -/
def attributeValue? (last : Char) (cs : List Char) : Option Part :=
  let bare (c : Char) : Bool := c ≠ '>' && !Text.isBlank c
  match cs with
  | [] => some ⟨[], last, []⟩
  | c :: rest =>
    if c = '"' ∨ c = '\'' then
      match rest.dropWhile (· ≠ c) with
      | [] => none
      | _ :: after => some ⟨rest.takeWhile (· ≠ c), c, after⟩
    else
      let value := cs.takeWhile bare
      some ⟨value, value.getLastD last, cs.dropWhile bare⟩

/-- The value part of an attribute: equals signs, blanks around them, and the value. A quote that is
not closed is no quote: it begins the next attribute after a blank, or a bare value after a second
equals sign. -/
def valuePart? (cs : List Char) : Option Part :=
  match cs.dropWhile Text.isBlank with
  | '=' :: rest =>
    let signs := rest.takeWhile (· = '=')
    let rest := rest.dropWhile (· = '=')
    let blanks := rest.takeWhile Text.isBlank
    let start := rest.dropWhile Text.isBlank
    match attributeValue? (blanks.getLastD '=') start with
    | some part => some part
    | none =>
      if !blanks.isEmpty then some ⟨[], blanks.getLastD '=', start⟩
      else if !signs.isEmpty then attributeValue? '=' ('=' :: start)
      else none
  | _ => none

/-- An attribute with its value as written. -/
abbrev RawAttribute := String × List Char

/-- One attribute. Its name begins after a blank, a slash or a quote. -/
def attribute? (last : Char) (cs : List Char) : Option (RawAttribute × Char × List Char) :=
  match cs with
  | [] => none
  | c :: rest =>
    if (Text.isBlank last || last ∈ ['"', '\'', '/']) && !(Text.isBlank c || c ∈ ['/', '>']) then
      let inName (c : Char) : Bool := !(Text.isBlank c || c ∈ ['/', '=', '>'])
      let name := c :: rest.takeWhile inName
      let afterName := rest.dropWhile inName
      let value := (valuePart? afterName).getD ⟨[], name.getLastD c, afterName⟩
      some ((Text.lower (String.ofList name), value.text), skipGap value.last value.rest)
    else none

/-- The attributes of a tag, with the last character read and what follows. Every attribute takes a
character, so the length of the text is fuel enough. -/
def attributes (last : Char) (cs : List Char) : Nat → List RawAttribute × Char × List Char
  | 0 => ([], last, cs)
  | fuel + 1 =>
    match attribute? last cs with
    | none => ([], last, cs)
    | some (a, last, rest) =>
      let (more, r) := attributes last rest fuel
      (a :: more, r)

/-- The attributes with the references in their values replaced. -/
def expandAll : List RawAttribute → Except Nat (List (String × String))
  | [] => .ok []
  | (name, value) :: rest => do
    let value ← expand value
    let more ← expandAll rest
    pure ((name, String.ofList value) :: more)

/-- How the reading of one piece of markup went: events with what follows, or an end too early. -/
inductive Piece where
  | read (events : List Event) (rest : List Char)
  | cutShort

/-- An opening tag, from the letter after `<` on. Its attributes are read before it is known to end
as a tag. -/
def openingTag (cs : List Char) : Except Rejection Piece :=
  let name := cs.takeWhile fun c => !endsTagName c
  let afterName := cs.dropWhile fun c => !endsTagName c
  let (last, rest) := skipGap (name.getLastD '<') afterName
  let (found, _, rest) := attributes last rest rest.length
  let tagName := Text.lower (String.ofList name)
  match rest with
  | [] | '=' :: _ => .ok .cutShort
  | rest =>
    match expandAll found with
    | .error digits => .error (.numberTooLong digits)
    | .ok found =>
      match rest with
      | '>' :: rest => .ok (.read [.opening tagName (.ofList found) false] rest)
      | '/' :: '>' :: rest => .ok (.read [.opening tagName (.ofList found) true] rest)
      | rest => .ok (.read [.text ('<' :: cs.take (cs.length - rest.length))] rest)

/-- A character of the name of an end tag. -/
def inEndName (c : Char) : Bool :=
  c.isAlphanum || c ∈ ['-', '.', ':', '_']

/-- The name of an end tag that holds nothing else, with what follows the tag. -/
def plainEndTag? (cs : List Char) : Option (List Char × List Char) :=
  match cs.dropWhile Text.isBlank with
  | c :: rest =>
    if isLetter c then
      (afterMarks? ['>'] (rest.dropWhile inEndName)).map fun after =>
        (c :: rest.takeWhile inEndName, after)
    else none
  | [] => none

/-- An end tag, from behind `</` on. -/
def endTag (cs : List Char) : Piece :=
  match afterClose? cs with
  | none => .cutShort
  | some afterFirst =>
    match plainEndTag? cs with
    | some (name, rest) => .read [.closing (Text.lower (String.ofList name))] rest
    | none =>
      match cs with
      | c :: _ =>
        if isLetter c then
          let name := cs.takeWhile fun c => !endsTagName c
          .read [.closing (Text.lower (String.ofList name))] afterFirst
        else if c = '>' then .read [] afterFirst
        else .read [.mark] afterFirst
      | [] => .cutShort

/-! ## Declarations -/

/-- The kinds of sections that end in two brackets. -/
def sectionKinds : List String := ["temp", "cdata", "ignore", "include", "rcdata"]

/-- The kinds of conditional sections, which end in one bracket. -/
def conditionKinds : List String := ["if", "else", "endif"]

/-- The text of a section, if it is one of plain text. -/
def sectionEvent (content : List Char) : Event :=
  if Text.lowerAscii (String.ofList (content.take 6)) = "cdata[" then .markedText (content.drop 6)
  else .mark

/-- A marked section, from behind `<![` on. -/
def markedSection (cs : List Char) : Except Rejection Piece :=
  match cs with
  | [] => .ok .cutShort
  | c :: rest =>
    if !isLetter c then
      .error (.namelessSection (String.ofList (("<![".toList ++ cs).take 20)))
    else
      let inName (c : Char) : Bool := c.isAlphanum || c ∈ ['-', '_', '.']
      let name := c :: rest.takeWhile inName
      let afterName := rest.dropWhile inName
      let after := afterName.dropWhile Text.isBlank
      let kind := Text.lowerAscii (String.ofList name)
      if after.isEmpty then .ok .cutShort
      else if kind ∈ sectionKinds ∨ kind ∈ conditionKinds then
        match splitBefore? (if kind ∈ sectionKinds then sectionEnd? else conditionEnd?) cs with
        | none => .ok .cutShort
        | some (content, rest) => .ok (.read [sectionEvent content] rest)
      else .error (.unknownSection (String.ofList (cs.take (cs.length - after.length))))

/-- What follows the first `>`, with a break in place of what lies before it. -/
def markTo (cs : List Char) : Piece :=
  match afterClose? cs with
  | some rest => .read [.mark] rest
  | none => .cutShort

/-- A comment, from behind `<!--` on. -/
def comment (cs : List Char) : Piece :=
  match splitBefore? commentEnd? cs with
  | some (_, rest) => .read [.mark] rest
  | none => .cutShort

/-- A document type declaration, from behind `<!` on. -/
def isDoctype (cs : List Char) : Bool :=
  Text.lowerAscii (String.ofList (cs.take 7)) = "doctype"

/-- What begins with `<`, from behind it on. One character alone is left for the end of the text. -/
def markup (cs : List Char) : Except Rejection Piece :=
  match cs with
  | [] => .ok .cutShort
  | '/' :: rest => .ok (endTag rest)
  | '!' :: '-' :: '-' :: rest => .ok (comment rest)
  | '!' :: '[' :: rest => markedSection rest
  | '!' :: rest => .ok (markTo (if isDoctype rest then rest.drop 7 else rest))
  | '?' :: rest => .ok (markTo rest)
  | c :: rest => if isLetter c then openingTag (c :: rest) else .ok (.read [.text ['<']] (c :: rest))

/-! ## References in text -/

/-- What follows the digits of a number in text, if a character does that is no digit itself. A
semicolon belongs to the number. -/
def afterDigits? (ds rest : List Char) : Option (List Char) :=
  match ds, rest with
  | [], _ | _, [] => none
  | _, c :: after =>
    if c = ';' then some after else if Text.isHexDigit c then none else some (c :: after)

/-- A number after `&#`, which a character has to follow: the number and what follows it. -/
def textNumber? (cs : List Char) : Except Nat (Option (Nat × List Char)) :=
  match cs with
  | x :: rest =>
    if x = 'x' ∨ x = 'X' then
      let ds := rest.takeWhile Text.isHexDigit
      .ok ((afterDigits? ds (rest.dropWhile Text.isHexDigit)).map (Text.hexValue ds, ·))
    else
      let ds := cs.takeWhile Char.isDigit
      match afterDigits? ds (cs.dropWhile Char.isDigit) with
      | none => .ok none
      | some after => (decimal ds).map fun n => some (n, after)
  | [] => .ok none

/-- A character of a name in text. -/
def inTextName (c : Char) : Bool :=
  c.isAlphanum || c = '-' || c = '.'

/-- A name after `&`, which a character that is neither letter nor digit has to follow. At the end
of the text that is the last point or hyphen of the name itself. -/
def textName? (cs : List Char) : Option (List Char × List Char) :=
  let name := cs.takeWhile inTextName
  match cs.dropWhile inTextName with
  | ';' :: rest => some (name, rest)
  | c :: rest => some (name, c :: rest)
  | [] =>
    let tail := name.reverse.takeWhile Char.isAlphanum
    if tail.length < name.length then
      let n := name.length - tail.length - 1
      some (name.take n, name.drop n)
    else none

/-- The text in place of a name. -/
def nameText (name : List Char) : List Char :=
  (named? name).getD ('&' :: name)

/-- How the reading of a reference went. -/
inductive ReferenceRead where
  /-- Text with what follows it. -/
  | text (content rest : List Char)
  /-- No more can be read for now; text may have been. -/
  | stop (content rest : List Char)

/-- What begins with `&`, from behind it on; `final` if the text ends where it ends. -/
def textReference (final : Bool) (cs : List Char) : Except Rejection ReferenceRead :=
  match cs with
  | '#' :: rest =>
    match textNumber? rest with
    | .error digits => .error (.numberTooLong digits)
    | .ok (some (n, rest)) => .ok (.text [numbered n] rest)
    | .ok none => .ok (if ';' ∈ rest then .stop ['&', '#'] rest else .stop [] ('&' :: cs))
  | c :: rest =>
    .ok (if isLetter c then
      match textName? cs with
      | some (name, rest) => .text (nameText name) rest
      | none => if final && rest.isEmpty then .stop [] cs else .stop [] ('&' :: cs)
    else .text ['&'] cs)
  | [] => .ok (.stop [] ['&'])

/-! ## Whole texts -/

/-- The elements whose content is raw up to their end tag. -/
def rawNames : List String := ["script", "style"]

/-- Where the reader stands: the name of an element with raw content around it. -/
abbrev Context := Option String

/-- The context after events: an opening tag of an element with raw content begins it. -/
def contextAfter (events : List Event) : Context :=
  match events with
  | [.opening name _ false] => if name ∈ rawNames then some name else none
  | _ => none

/-- A text event, unless there is nothing in it. -/
def textEvents (content : List Char) : List Event :=
  if content.isEmpty then [] else [.text content]

/-- The text taken for a piece of markup that ends too early: up to the next `>`, or else up to the
next `<`, or else its first character. -/
def strayMarkup (cs : List Char) : List Char × List Char :=
  match cs with
  | [] => ([], [])
  | c :: rest =>
    match afterClose? rest with
    | some after => (cs.take (cs.length - after.length), after)
    | none =>
      match rest.dropWhile (· ≠ '<') with
      | [] => ([c], rest)
      | after => (c :: rest.takeWhile (· ≠ '<'), after)

/-- What a pass over a text leaves: the context and the text not read. -/
structure PassEnd where
  context : Context
  rest : List Char

/-- One pass over a text. It stops where a construct is not complete, unless the pass is final: then
such a construct is text. Every step takes a character, so the length of the text is fuel enough. -/
def pass (final : Bool) (context : Context) (cs : List Char) :
    Nat → Except Rejection (List Event × PassEnd)
  | 0 => .ok ([], ⟨context, cs⟩)
  | fuel + 1 =>
    match context with
    | some name =>
      match splitBefore? (rawEnd? name) cs with
      | none => .ok ([], ⟨context, cs⟩)
      | some (content, rest) => do
        let (more, stop) ← pass final none rest fuel
        pure (textEvents content ++ .closing name :: more, stop)
    | none =>
      let content := cs.takeWhile fun c => c ≠ '<' && c ≠ '&'
      let before := textEvents content
      match cs.dropWhile fun c => c ≠ '<' && c ≠ '&' with
      | [] => .ok (before, ⟨none, []⟩)
      | '&' :: rest => do
        match ← textReference final rest with
        | .text content rest =>
          let (more, stop) ← pass final none rest fuel
          pure (before ++ .text content :: more, stop)
        | .stop content rest => .ok (before ++ textEvents content, ⟨none, rest⟩)
      | c :: rest => do
        match ← markup rest with
        | .read events rest =>
          let (more, stop) ← pass final (contextAfter events) rest fuel
          pure (before ++ events ++ more, stop)
        | .cutShort =>
          if final && !rest.isEmpty then
            let (stray, rest) := strayMarkup (c :: rest)
            let (more, stop) ← pass final none rest fuel
            pure (before ++ textEvents stray ++ more, stop)
          else .ok (before, ⟨none, c :: rest⟩)

/-- **Reading markup**: a pass up to the first construct that is not complete, and a final one for
the rest. What the final pass leaves is text, but for raw content without an end tag, which is
dropped. -/
def scan (cs : List Char) : Except Rejection (List Event) := do
  let (first, stop) ← pass false none cs (cs.length + 1)
  let (second, stop) ← pass true stop.context stop.rest (stop.rest.length + 1)
  let left := if stop.context.isNone then textEvents stop.rest else []
  pure (first ++ second ++ left)

end ParcelRecords.Markup
