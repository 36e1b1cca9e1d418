import ParcelRecords.Markup.Focus
import ParcelRecords.Selector.Basic
import ParcelRecords.Selector.Word
import ParcelRecords.Text.Lower
import ParcelRecords.Text.Search

/-!
# Conditions on attributes

How the attributes of an element are seen by selectors. An attribute that lists words is seen with
single spaces between them.

## Main definitions

* `Selector.attributeText?` is the value of an attribute as it is compared.
* `Selector.AttributeTest.holds` compares a value.
-/

namespace ParcelRecords.Selector

open Markup (Element Focus)

/-! ## Values -/

/-- Whether an attribute of an element lists words. -/
def listsWords (element key : String) : Bool :=
  key ∈ ["class", "accesskey", "dropzone"] ||
    (element, key) ∈ [("a", "rel"), ("a", "rev"), ("link", "rel"), ("link", "rev"),
      ("td", "headers"), ("th", "headers"), ("form", "accept-charset"), ("object", "archive"),
      ("area", "rel"), ("icon", "sizes"), ("iframe", "sandbox"), ("output", "for")]

/-- The words with spaces between them. -/
def spaced (words : List String) : String :=
  " ".intercalate words

/-- The value of an attribute, its name compared up to the case of ASCII letters. -/
def attributeText? (e : Element) (name : String) : Option String :=
  (e.tag.attributes.entries.find? fun a => Text.lowerAscii a.1 = Text.lowerAscii name).map fun a =>
    if listsWords e.name a.1 then spaced (Text.words a.2) else a.2

/-- The classes of an element. -/
def classes (e : Element) : List String :=
  Text.words ((e.attribute? "class").getD "")

/-! ## Comparisons -/

/-- Whether two texts are equal, a line feed at the end of the first aside. -/
def endsAlike (value sought : List Char) : Bool :=
  value = sought || value = sought ++ ['\n']

/-- The words of a text between the blanks that selectors know. -/
def plainWords (value : List Char) : List (List Char) :=
  (value.splitBy fun a b => isSpace a == isSpace b).filter fun w => !w.any isSpace

/-- Whether a value passes a comparison. An empty text is never searched for. -/
def Comparison.holds (c : Comparison) (sought value : List Char) : Bool :=
  match c with
  | .equal => endsAlike value sought
  | .startsWith => !sought.isEmpty && sought.isPrefixOf value
  | .endsWith =>
    !sought.isEmpty && (sought.isSuffixOf value || (sought ++ ['\n']).isSuffixOf value)
  | .contains => !sought.isEmpty && Text.occursInChars sought value
  | .word => sought ∈ plainWords value
  | .language => endsAlike value sought || (sought ++ ['-']).isPrefixOf value

/-- Whether the value of an attribute passes a test. -/
def AttributeTest.holds (t : AttributeTest) (value : String) : Bool :=
  let seen (s : String) : List Char :=
    if t.ignoresCase then s.toList.map Text.foldCase else s.toList
  t.comparison.holds (seen t.value) (seen value)

/-- Whether an element has an attribute, with a value that passes the test if there is one. -/
def attributeHolds (name : String) (test : Option AttributeTest) (e : Element) : Bool :=
  match attributeText? e name, test with
  | none, _ => false
  | some _, none => true
  | some value, some t => t.holds value

end ParcelRecords.Selector
