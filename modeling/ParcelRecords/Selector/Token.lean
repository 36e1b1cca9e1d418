import ParcelRecords.Selector.Basic
import ParcelRecords.Selector.Word
import ParcelRecords.Text.Lower

/-!
# Parts of selectors

Cuts a selector into parts: conditions that stand by themselves, beginnings of lists in parentheses,
their ends, commas and combinators.

## Main definitions

* `Selector.Token` is a part of a selector.
* `Selector.token?` reads one part, `Selector.tokens?` a whole text.
-/

namespace ParcelRecords.Selector

/-- What a list in parentheses is for. -/
inductive Opening where
  | anyOf (forgiving : Bool)
  | noneOf
  | leadsTo
  | position (fromLast : Bool) (rule : Progression)

/-- A part of a selector. -/
inductive Token where
  /-- Conditions that stand by themselves. -/
  | conditions (conditions : List Simple)
  /-- A condition on the name, which has to come first. -/
  | type (condition : Simple)
  | opening (kind : Opening)
  | close
  | comma
  | combinator (c : Combinator)

/-! ## Positions -/

/-- What follows a word, letter case of ASCII letters aside. -/
def afterWord? (word : String) (cs : List Char) : Option (List Char) :=
  if Text.lowerAscii (String.ofList (cs.take word.length)) = word then some (cs.drop word.length)
  else none

/-- A sign, if there is one, as whether it is negative. -/
def sign? : List Char → Option (Bool × List Char)
  | '+' :: rest => some (false, rest)
  | '-' :: rest => some (true, rest)
  | _ => none

/-- A number with a sign. -/
def signed (negative : Bool) (n : Nat) : Int :=
  if negative then -(n : Int) else n

/-- The number that is added to the steps, with a sign before it and gaps around the sign. -/
def offset? (cs : List Char) : Option (Int × List Char) := do
  let (negative, rest) ← sign? (afterGap cs)
  let rest := afterGap rest
  match rest.takeWhile Char.isDigit with
  | [] => none
  | ds => pure (signed negative (Text.decimalValue ds), rest.dropWhile Char.isDigit)

/-- A rule for positions: a number, or steps with or without an offset. -/
def steps? (cs : List Char) : Option (Progression × List Char) :=
  let (negative, cs) := (sign? cs).getD (false, cs)
  let ds := cs.takeWhile Char.isDigit
  let rest := cs.dropWhile Char.isDigit
  match afterWord? "n" rest with
  | some rest =>
    let step := signed negative (if ds.isEmpty then 1 else Text.decimalValue ds)
    match offset? rest with
    | some (offset, rest) => some (⟨step, offset⟩, rest)
    | none => some (⟨step, 0⟩, rest)
  | none => if ds.isEmpty then none else some (⟨0, signed negative (Text.decimalValue ds)⟩, rest)

/-- A rule for positions, also as a word. -/
def progression? (cs : List Char) : Option (Progression × List Char) :=
  match steps? cs with
  | some r => some r
  | none =>
    match afterWord? "even" cs with
    | some rest => some (⟨2, 0⟩, rest)
    | none => (afterWord? "odd" cs).map fun rest => (⟨2, 1⟩, rest)

/-- The word between a rule and a list, blanks around it. -/
def afterOf? (cs : List Char) : Option (List Char) := do
  let (blank, rest) := skipGap cs
  let rest ← if blank then afterWord? "of" rest else none
  let (blank, rest) := skipGap rest
  if blank then pure rest else none

/-- What follows a closing parenthesis after a gap. -/
def afterClose? (cs : List Char) : Option (List Char) :=
  match afterGap cs with
  | ')' :: rest => some rest
  | _ => none

/-- A position among all siblings, from behind the parenthesis on. -/
def position? (fromLast : Bool) (cs : List Char) : Option (Token × List Char) := do
  let (rule, rest) ← progression? cs
  match afterClose? rest with
  | some rest => pure (.conditions [.position fromLast rule []], rest)
  | none =>
    let rest ← afterOf? rest
    pure (.opening (.position fromLast rule), rest)

/-- A position among the siblings of the same name, from behind the parenthesis on. -/
def positionOfType? (fromLast : Bool) (cs : List Char) : Option (Token × List Char) := do
  let (rule, rest) ← progression? cs
  let rest ← afterClose? rest
  pure (.conditions [.positionOfType fromLast rule], rest)

/-! ## Texts -/

/-- What follows values with commas between them. -/
def afterValuesFrom (cs : List Char) : Nat → Option (List Char)
  | 0 => none
  | fuel + 1 => do
    let rest ← afterValue? cs
    match afterGap rest with
    | ',' :: more => afterValuesFrom (afterGap more) fuel
    | _ => pure rest

/-- The values in a text, whatever stands between them. -/
def valuesIn (cs : List Char) : Nat → List (List Char)
  | 0 => []
  | fuel + 1 =>
    match cs with
    | [] => []
    | _ :: rest =>
      match afterValue? cs with
      | some rest => upTo cs rest :: valuesIn rest fuel
      | none => valuesIn rest fuel

/-- The texts of a list of values. Escapes are resolved before the values are told apart, and again
in each of them. -/
def texts? (cs : List Char) : Option (List String) := do
  let cs ← unescape false cs
  (valuesIn cs cs.length).mapM valueText?

/-! ## Attributes -/

/-- The comparison of an operator, and what follows it; the operator for a different value is `none`
inside. -/
def comparison? : List Char → Option (Option Comparison × List Char)
  | '=' :: rest => some (some .equal, rest)
  | '!' :: '=' :: rest => some (none, rest)
  | '~' :: '=' :: rest => some (some .word, rest)
  | '^' :: '=' :: rest => some (some .startsWith, rest)
  | '|' :: '=' :: rest => some (some .language, rest)
  | '*' :: '=' :: rest => some (some .contains, rest)
  | '$' :: '=' :: rest => some (some .endsWith, rest)
  | _ => none

/-- A name behind a prefix, the prefix dropped, or else a name alone. -/
def attributeName? (cs : List Char) : Option (String × List Char) :=
  let afterPrefix := match cs with
    | '*' :: rest => rest
    | _ => (afterIdentifier? cs).getD cs
  match afterPrefix with
  | '|' :: rest =>
    match identifier? rest with
    | some r => some r
    | none => identifier? cs
  | _ => identifier? cs

/-- What follows the closing bracket after a gap. -/
def afterBracket? (cs : List Char) : Option (List Char) :=
  match afterGap cs with
  | ']' :: rest => some rest
  | _ => none

/-- A letter that says whether letter case counts, and what follows the bracket after it. -/
def caseLetter? (cs : List Char) : Option (Char × List Char) :=
  match afterGap cs with
  | c :: rest =>
    if Text.foldCase c ∈ ['i', 's'].map Text.foldCase then
      (afterBracket? rest).map fun rest => (c, rest)
    else none
  | [] => none

/-- A condition on an attribute, from behind the bracket on. Values of `type` are compared without
letter case unless a letter says otherwise. -/
def attribute? (cs : List Char) : Option (Token × List Char) := do
  let (name, rest) ← attributeName? (afterGap cs)
  match comparison? (afterGap rest) with
  | none =>
    let rest ← afterBracket? rest
    pure (.conditions [.hasAttribute name none], rest)
  | some (comparison, rest) =>
    let start := afterGap rest
    let rest ← afterValue? start
    let value ← valueText? (upTo start rest)
    let (ignoresCase, rest) ← match caseLetter? rest with
      | some (c, rest) => some (c = 'i' || c = 'I', rest)
      | none => (afterBracket? rest).map fun rest => (Text.lowerAscii name == "type", rest)
    match comparison with
    | some comparison =>
      pure (.conditions [.hasAttribute name (some ⟨comparison, value, ignoresCase⟩)], rest)
    | none =>
      pure (.conditions
        [.noneOf [.compound [.hasAttribute name (some ⟨.equal, value, ignoresCase⟩)]]], rest)

/-! ## Names of elements -/

/-- A name or the mark of every name. -/
def nameOrEvery? (cs : List Char) : Option (String × List Char) :=
  match cs with
  | '*' :: rest => some ("*", rest)
  | _ => identifier? cs

/-- The condition that a name stands for. -/
def typeCondition (name : String) : Simple :=
  if name = "*" then .every else .type (Text.lowerAscii name)

/-- A condition on the name. Elements have no name spaces, so that a prefix other than the mark of
every one is never met. -/
def type? (cs : List Char) : Option (Token × List Char) :=
  let (space, afterPrefix) := (nameOrEvery? cs).getD ("", cs)
  let prefixed := match afterPrefix with
    | '|' :: rest => nameOrEvery? rest
    | _ => none
  match prefixed with
  | some (name, rest) => some (.type (if space = "*" then typeCondition name else .never), rest)
  | none => (nameOrEvery? cs).map fun r => (.type (typeCondition r.1), r.2)

/-! ## Named conditions

Positions, states of links and form controls, and what lies on the page or in an element. Languages,
directions of writing, ranges of values, placeholders and defaults are not asked for: a selector that
names one of them counts as not well formed. -/

/-- The first position. -/
def first : Progression := ⟨0, 1⟩

/-- The element has one of the names. -/
def hasName (names : List String) : Simple :=
  .anyOf (names.map fun name => .compound [.type name])

/-- The element lacks an attribute. -/
def lacks (key : String) : Simple :=
  .noneOf [.compound [.hasAttribute key none]]

/-- An attribute has a value, letter case aside. -/
def hasValue (key value : String) : Simple :=
  .hasAttribute key (some ⟨.equal, value, true⟩)

/-- Controls that can be asked to be filled in. -/
def fillable : Simple :=
  hasName ["input", "select", "textarea"]

/-- Controls and groups that are not disabled. -/
def enabled : List Simple :=
  [.anyOf [
    .compound [.type "input", .noneOf [.compound [hasValue "type" "hidden"]]],
    .compound [hasName ["button", "select", "textarea", "fieldset", "optgroup", "option"]]],
   .noneOf [.compound [.disabled]]]

/-- The types of fields that a text is typed into. -/
def textTypes : List String :=
  ["", "date", "datetime-local", "email", "month", "number", "password", "search", "tel", "text",
   "time", "url", "week"]

/-- Elements that can be edited. -/
def editable : List Complex :=
  [.compound [
    .anyOf [
      .compound [.type "textarea"],
      .compound [.type "input",
        .anyOf (.compound [lacks "type"] :: textTypes.map fun t => .compound [hasValue "type" t])]],
    .noneOf [.compound [.hasAttribute "readonly" none], .compound [.disabled]]],
   .compound [.anyOf [
    .compound [hasValue "contenteditable" ""], .compound [hasValue "contenteditable" "true"]]]]

/-- Names of states that a page by itself is never in, such as where the pointer is. -/
def momentary : List String :=
  ["active", "current", "focus", "focus-visible", "focus-within", "future", "host", "hover",
   "local-link", "past", "paused", "playing", "target", "target-within", "user-invalid", "visited"]

/-- The conditions that a name stands for by itself. -/
def namedConditions? : String → Option (List Simple)
  | "root" => some [.root]
  | "scope" => some [.scope]
  | "empty" => some [.empty]
  | "checked" => some [.checked]
  | "disabled" => some [.disabled]
  | "first-child" => some [.position false first []]
  | "last-child" => some [.position true first []]
  | "only-child" => some [.position false first [], .position true first []]
  | "first-of-type" => some [.positionOfType false first]
  | "last-of-type" => some [.positionOfType true first]
  | "only-of-type" => some [.positionOfType false first, .positionOfType true first]
  | "any-link" | "link" => some [hasName ["a", "area"], .hasAttribute "href" none]
  | "required" => some [fillable, .hasAttribute "required" none]
  | "optional" => some [fillable, lacks "required"]
  | "enabled" => some enabled
  | "read-write" => some [.anyOf editable]
  | "read-only" => some [.noneOf editable]
  | "defined" => some [.defined]
  | name => if name ∈ momentary then some [.never] else none

/-- The list that a name begins. -/
def opening? : String → Option Opening
  | "is" | "where" => some (.anyOf true)
  | "matches" | "contains" | "-soup-contains" | "-soup-contains-own" => some (.anyOf false)
  | "not" => some .noneOf
  | "has" => some .leadsTo
  | _ => none

/-- A condition on texts, from behind the parenthesis on; without texts it is a list of its own. -/
def containsText? (name : String) (cs : List Char) : Option (Token × List Char) :=
  match (afterValuesFrom cs cs.length).bind fun rest => (afterClose? rest).map (rest, ·) with
  | some (rest, after) =>
    (texts? (upTo cs rest)).map fun texts =>
      (.conditions [.containsText (name = "-soup-contains-own") texts], after)
  | none => (opening? name).map fun kind => (.opening kind, cs)

/-- A named condition or the beginning of a list, from behind the colon on. -/
def named? (cs : List Char) : Option (Token × List Char) := do
  let (name, rest) ← identifier? cs
  let name := Text.lowerAscii name
  match rest with
  | '(' :: rest =>
    let rest := afterGap rest
    match name with
    | "contains" | "-soup-contains" | "-soup-contains-own" => containsText? name rest
    | "nth-child" => position? false rest
    | "nth-last-child" => position? true rest
    | "nth-of-type" => positionOfType? false rest
    | "nth-last-of-type" => positionOfType? true rest
    | _ => (opening? name).map fun kind => (.opening kind, rest)
  | _ => (namedConditions? name).map fun conditions => (.conditions conditions, rest)

/-! ## Whole texts -/

/-- The combinator of a sign. -/
def combinatorOf? : Char → Option Token
  | ',' => some .comma
  | '>' => some (.combinator .child)
  | '+' => some (.combinator .next)
  | '~' => some (.combinator .later)
  | _ => none

/-- A comma or a combinator with gaps around it; a blank by itself is one, a comment is not. -/
def combinator? (cs : List Char) : Option (Token × List Char) :=
  let (blank, rest) := skipGap cs
  match rest with
  | c :: after =>
    match combinatorOf? c with
    | some t => some (t, afterGap after)
    | none => if blank then some (.combinator .inside, rest) else none
  | [] => none

/-- One part of a selector. -/
def token? (cs : List Char) : Option (Token × List Char) :=
  match afterClose? cs with
  | some rest => some (.close, rest)
  | none =>
    match cs with
    | ':' :: rest => named? rest
    | '&' :: rest => some (.conditions [.scope], rest)
    | '#' :: rest => (identifier? rest).map fun r => (.conditions [.hasId r.1], r.2)
    | '.' :: rest => (identifier? rest).map fun r => (.conditions [.hasClass r.1], r.2)
    | '[' :: rest => attribute? rest
    | _ =>
      match type? cs with
      | some r => some r
      | none => combinator? cs

/-- The parts up to the final gap. Every part takes a character, so the length of the text is fuel
enough. -/
def tokensFrom (final : Nat) (cs : List Char) : Nat → Option (List Token)
  | 0 => some []
  | fuel + 1 =>
    if cs.length ≤ final then some []
    else do
      let (t, rest) ← token? cs
      let more ← tokensFrom final rest fuel
      pure (t :: more)

/-- The parts of a selector; NUL characters are replaced first. -/
def tokens? (selector : String) : Option (List Token) :=
  let cs := selector.toList.map fun c => if c = '\x00' then replacement else c
  let start := afterGap cs
  tokensFrom (finalGap cs) start (start.length + 1)

end ParcelRecords.Selector
