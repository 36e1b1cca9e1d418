import ParcelRecords.Selector.Attribute

/-!
# Named conditions

The conditions that selectors know by name and that ask for more than a position: being alone on the
page, having no content or a name of its own, holding a text, and the states of form controls.

## Main definitions

* `Selector.isRoot`, `Selector.isScope` and `Selector.isEmpty` look at what is around and inside;
  `Selector.isDefined` looks at the name.
* `Selector.holdsText` looks for texts.
* `Selector.isChecked` and `Selector.isDisabled` tell the states of form controls.
-/

namespace ParcelRecords.Selector

open Markup (Element Focus Node TextKind)

/-! ## Content -/

/-- An embedded page, whose content belongs to no element around it. -/
def isEmbedding (e : Element) : Bool :=
  Text.lowerAscii e.name = "iframe"

/-- A node that leaves an element the only one beside it. -/
def isNegligible : Node → Bool
  | .element _ _ => false
  | .text .marked _ => false
  | .text _ content => content.toList.all Text.isBlank

/-- The only thing on the page or in an embedded page. -/
def isRoot (f : Focus) : Bool :=
  (match f.parent? with
    | none => false
    | some parent => parent.above.isEmpty || isEmbedding parent.here) &&
  f.before.all isNegligible && f.after.all isNegligible

/-- The first element of the page. -/
def isScope (f : Focus) : Bool :=
  f.above.length = 1 && f.previous.isEmpty

/-- A node that counts as content. -/
def isContent : Node → Bool
  | .element _ _ => true
  | .text .marked _ => false
  | .text _ content => content.toList.any (!isSpace ·)

/-- Whether an element has no content. -/
def isEmpty (e : Element) : Bool :=
  isEmbedding e || !e.children.any isContent

/-- Whether the name of an element is no name of a page's own, which has a hyphen in it and no
colon. -/
def isDefined (e : Element) : Bool :=
  !e.name.toList.contains '-' || e.name.toList.contains ':'

/-! ## Texts -/

mutual

/-- The text of a node. -/
def plainText : Node → String
  | .element tag children => if isEmbedding ⟨tag, children⟩ then "" else plainTexts children
  | .text .marked _ => ""
  | .text _ content => content

/-- The text of nodes. -/
def plainTexts : List Node → String
  | [] => ""
  | n :: rest => plainText n ++ plainTexts rest

end

/-- The pieces of text directly inside an element. -/
def ownTexts (e : Element) : List String :=
  if isEmbedding e then []
  else e.children.filterMap fun
    | .element _ _ | .text .marked _ => none
    | .text _ content => some content

/-- Whether one of the texts occurs in an element, or in one of its own pieces of text. -/
def holdsText (own : Bool) (texts : List String) (e : Element) : Bool :=
  let pieces := if own then ownTexts e else [plainText (.element e.tag e.children)]
  texts.any fun t => pieces.any (Text.occursIn t)

/-! ## Form controls -/

/-- Whether the element has one of the names. -/
def isNamed (names : List String) (e : Element) : Bool :=
  Text.lowerAscii e.name ∈ names

/-- Whether the type of an element is one of those given, letter case aside. -/
def hasType (types : List String) (e : Element) : Bool :=
  types.any fun t => attributeHolds "type" (some ⟨.equal, t, true⟩) e

/-- Whether a checkbox or a radio button is checked, or an option selected. -/
def isChecked (e : Element) : Bool :=
  (isNamed ["input"] e && hasType ["checkbox", "radio"] e && attributeHolds "checked" none e) ||
  (isNamed ["option"] e && attributeHolds "selected" none e)

/-- A control that its surroundings can disable. -/
def isControl (e : Element) : Bool :=
  (isNamed ["input"] e && !hasType ["hidden"] e) ||
    isNamed ["button", "select", "textarea", "fieldset"] e

/-- Whether the element has one of the names and is itself marked as disabled. -/
def isMarkedDisabled (names : List String) (e : Element) : Bool :=
  isNamed names e && attributeHolds "disabled" none e

/-- The first legend of its parent, whose controls stay enabled. -/
def isFirstLegend (f : Focus) : Bool :=
  isNamed ["legend"] f.here && !f.previous.any fun g => Text.lowerAscii g.name = "legend"

/-- The ancestors within the same page, nearest first. -/
def pageAncestors (f : Focus) : List Focus :=
  f.ancestors.takeWhile fun g => !isEmbedding g.here

/-- Whether the nearest of some ancestors is disabled and of one of the names. -/
def parentDisabled (names : List String) (ancestors : List Focus) : Bool :=
  match ancestors with
  | [] => false
  | parent :: _ => isMarkedDisabled names parent.here

/-- Whether a control stands in a disabled group, other than in its first legend. -/
def inDisabledGroup : List Focus → Bool
  | [] => false
  | f :: rest =>
    (!isFirstLegend f && parentDisabled ["fieldset"] rest) || inDisabledGroup rest

/-- Whether a form control is disabled, by itself or by what is around it. -/
def isDisabled (f : Focus) : Bool :=
  let ancestors := pageAncestors f
  ((isControl f.here || isNamed ["optgroup", "option"] f.here) &&
    attributeHolds "disabled" none f.here) ||
  (isNamed ["option"] f.here && parentDisabled ["optgroup"] ancestors) ||
  (isControl f.here && (parentDisabled ["fieldset"] ancestors || inDisabledGroup ancestors))

end ParcelRecords.Selector
