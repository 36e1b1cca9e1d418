/-!
# Selectors

What elements of a page are chosen by: conditions on one element, and relations that lead from one
element to another.

## Main definitions

* `Selector.Progression` is a rule for positions, such as every second one from the third on.
* `Selector.Simple` is one condition on an element.
* `Selector.Complex` is a condition on an element and on those it is related to.
* `Selector` is a list of alternatives.
-/

namespace ParcelRecords

namespace Selector

/-- How an element is related to the one that a condition on its left speaks of. -/
inductive Combinator where
  /-- Anywhere inside. -/
  | inside
  /-- Directly inside. -/
  | child
  /-- The next element beside. -/
  | next
  /-- Some element beside and after. -/
  | later
deriving DecidableEq

/-- The positions `offset`, `offset + step`, `offset + 2 * step` and so on. -/
structure Progression where
  step : Int
  offset : Int
deriving DecidableEq

/-- Whether a position belongs to a progression. -/
def Progression.has (p : Progression) (n : Nat) : Bool :=
  let distance : Int := n - p.offset
  if p.step = 0 then distance = 0 else distance % p.step = 0 && 0 ≤ distance / p.step

/-- How the value of an attribute is compared. -/
inductive Comparison where
  | equal
  | startsWith
  | endsWith
  | contains
  /-- One of the words of the value. -/
  | word
  /-- The value, or its part before a hyphen. -/
  | language
deriving DecidableEq

/-- A comparison with a value, letter case regarded or not. -/
structure AttributeTest where
  comparison : Comparison
  value : String
  ignoresCase : Bool

mutual

/-- One condition on an element. -/
inductive Simple where
  | every
  /-- No element. -/
  | never
  | type (name : String)
  | hasId (value : String)
  | hasClass (value : String)
  | hasAttribute (name : String) (test : Option AttributeTest)
  /-- The position among the siblings, from the first or from the last on; with alternatives, only
  elements that meet one of them are counted. -/
  | position (fromLast : Bool) (rule : Progression) (among : List Complex)
  /-- The position among the siblings of the same name. -/
  | positionOfType (fromLast : Bool) (rule : Progression)
  | anyOf (alternatives : List Complex)
  | noneOf (alternatives : List Complex)
  | leadsTo (alternatives : List Onward)
  /-- One of the texts occurs in the text of the element, or in one of its own pieces of text. -/
  | containsText (own : Bool) (texts : List String)
  /-- The only thing on the page. -/
  | root
  /-- The first element of the page. -/
  | scope
  | empty
  | checked
  | disabled
  /-- The name is not that of an element that a page defines for itself. -/
  | defined

/-- Conditions on an element, and on the elements on its left. -/
inductive Complex where
  | compound (conditions : List Simple)
  | related (left : Complex) (combinator : Combinator) (conditions : List Simple)

/-- Steps onward from an element, each with conditions on the element it leads to. -/
inductive Onward where
  | stop
  | go (combinator : Combinator) (conditions : List Simple) (next : Onward)

end

end Selector

/-- A selector: an element has to meet one of the alternatives. -/
structure Selector where
  alternatives : List Selector.Complex

end ParcelRecords
