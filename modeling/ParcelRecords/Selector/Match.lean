import ParcelRecords.Selector.Reader
import ParcelRecords.Selector.Standing

/-!
# Meeting selectors

When an element meets a selector, and the first element that does.

## Main definitions

* `Selector.related` lists the elements that a condition on the left may speak of, `Selector.onward`
  those that an element leads to.
* `Selector.Simple.holds`, `Selector.Complex.holds` and `Selector.Onward.leads` are the meanings of
  the parts of a selector.
* `Selector.holds` is the meaning of a selector.
* `Selector.all` lists the elements inside a scope that meet a selector, in document order.
* `Markup.Focus.select?` is the first of them, for the text of a selector.
-/

namespace ParcelRecords.Selector

open Markup (Focus Document)

/-! ## Relations -/

/-- The elements to which an element stands in a relation, nearest first. -/
def related (c : Combinator) (f : Focus) : List Focus :=
  match c with
  | .inside => f.ancestors
  | .child => f.parent?.toList
  | .next => f.previous.take 1
  | .later => f.previous

/-- The elements that stand in a relation to an element. -/
def onward (c : Combinator) (f : Focus) : List Focus :=
  match c with
  | .inside => f.elements
  | .child => f.childElements
  | .next => f.next.take 1
  | .later => f.next

/-- The siblings up to an element from the first or from the last on, itself left out. -/
def siblingsUpTo (fromLast : Bool) (f : Focus) : List Focus :=
  if fromLast then f.next else f.previous

/-- Whether two elements have the same name. -/
def sameName (f g : Focus) : Bool :=
  Text.lowerAscii f.name = Text.lowerAscii g.name

/-! ## Meaning -/

mutual

/-- Whether an element meets a condition. -/
def Simple.holds : Simple → Focus → Bool
  | .every, _ => true
  | .never, _ => false
  | .type name, f => Text.lowerAscii f.name = name
  | .hasId value, f => f.here.attribute? "id" = some value
  | .hasClass value, f => value ∈ classes f.here
  | .hasAttribute name test, f => attributeHolds name test f.here
  | .position fromLast rule among, f =>
    (among.isEmpty || anyHolds among f) &&
      rule.has ((siblingsUpTo fromLast f).countP (fun g => among.isEmpty || anyHolds among g) + 1)
  | .positionOfType fromLast rule, f =>
    rule.has ((siblingsUpTo fromLast f).countP (sameName f) + 1)
  | .anyOf alternatives, f => anyHolds alternatives f
  | .noneOf alternatives, f => !anyHolds alternatives f
  | .leadsTo alternatives, f => anyLeads alternatives f
  | .containsText own texts, f => holdsText own texts f.here
  | .root, f => isRoot f
  | .scope, f => isScope f
  | .empty, f => isEmpty f.here
  | .checked, f => isChecked f.here
  | .disabled, f => isDisabled f
  | .defined, f => isDefined f.here

/-- Whether an element meets all conditions. -/
def allHold : List Simple → Focus → Bool
  | [], _ => true
  | c :: rest, f => c.holds f && allHold rest f

/-- Whether an element and those on its left meet their conditions. -/
def Complex.holds : Complex → Focus → Bool
  | .compound conditions, f => allHold conditions f
  | .related left c conditions, f =>
    allHold conditions f && (related c f).any fun g => left.holds g

/-- Whether an element meets one of the alternatives. -/
def anyHolds : List Complex → Focus → Bool
  | [], _ => false
  | c :: rest, f => c.holds f || anyHolds rest f

/-- Whether an element leads, step by step, to others that meet their conditions. -/
def Onward.leads : Onward → Focus → Bool
  | .stop, _ => true
  | .go c conditions next, f => (onward c f).any fun g => allHold conditions g && next.leads g

/-- Whether an element leads to others in one of the ways. -/
def anyLeads : List Onward → Focus → Bool
  | [], _ => false
  | o :: rest, f => o.leads f || anyLeads rest f

end

/-- Whether an element meets a selector. -/
def holds (s : Selector) (f : Focus) : Bool :=
  anyHolds s.alternatives f

/-- The elements inside a scope that meet a selector, in document order. What lies around the scope
takes part in the relations. -/
def all (s : Selector) (scope : Focus) : List Focus :=
  scope.elements.filter s.holds

end ParcelRecords.Selector

namespace ParcelRecords.Markup.Focus

/-- The elements inside that meet the selector; none if it is not well formed. -/
def selectAll (scope : Focus) (selector : String) : List Focus :=
  match Selector.read? selector with
  | some s => s.all scope
  | none => []

/-- **The first element** inside that meets the selector; none if it is not well formed. -/
def select? (scope : Focus) (selector : String) : Option Focus :=
  (scope.selectAll selector).head?

end ParcelRecords.Markup.Focus
