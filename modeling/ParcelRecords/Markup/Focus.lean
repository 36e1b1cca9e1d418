import ParcelRecords.Markup.Basic
import ParcelRecords.Text.Blank

/-!
# Elements in their places

An element together with all that lies around it, up to the page. Questions about parents, siblings
and nesting are answered from the place alone, and two elements that look alike are told apart by
their places.

## Main definitions

* `Focus` is an element with its place; `Frame` is one level of the place.
* `Focus.parent?`, `Focus.previous` and `Focus.next` lead to the elements around.
* `Focus.elements` lists the elements inside, in document order.
* `Document.focus` is the page itself.
* `Focus.nestingLevel` counts the tables around.
-/

namespace ParcelRecords.Markup

/-- The parent of an element with the nodes beside the element, those before it nearest first. -/
structure Frame where
  tag : Tag
  before : List Node
  after : List Node

/-- An element with the levels of its place, innermost first. -/
structure Focus where
  here : Element
  above : List Frame

namespace Focus

/-- The name of the element. -/
def name (f : Focus) : String :=
  f.here.name

/-- The nodes before the element inside its parent, nearest first. -/
def before (f : Focus) : List Node :=
  match f.above with
  | [] => []
  | frame :: _ => frame.before

/-- The nodes after the element inside its parent. -/
def after (f : Focus) : List Node :=
  match f.above with
  | [] => []
  | frame :: _ => frame.after

/-! ## Around an element -/

/-- The parent of an element in its place. -/
def parentOf (here : Element) (frame : Frame) : Element :=
  ⟨frame.tag, frame.before.reverse ++ .element here.tag here.children :: frame.after⟩

/-- The parent. -/
def parent? (f : Focus) : Option Focus :=
  match f.above with
  | [] => none
  | frame :: above => some ⟨parentOf f.here frame, above⟩

/-- The ancestors of an element, nearest first. -/
def ancestorsFrom (here : Element) : List Frame → List Focus
  | [] => []
  | frame :: above => ⟨parentOf here frame, above⟩ :: ancestorsFrom (parentOf here frame) above

/-- The ancestors, nearest first. -/
def ancestors (f : Focus) : List Focus :=
  ancestorsFrom f.here f.above

/-- The elements among nodes that stand before `after` inside the element `tag`; `before` are the
nodes between, nearest first. -/
def elementsBefore (tag : Tag) (above : List Frame) (after : List Node) : List Node → List Focus
  | [] => []
  | .text kind content :: before => elementsBefore tag above (.text kind content :: after) before
  | .element t children :: before =>
    ⟨⟨t, children⟩, ⟨tag, before, after⟩ :: above⟩ ::
      elementsBefore tag above (.element t children :: after) before

/-- The elements among nodes that stand after `before` inside the element `tag`. -/
def elementsAfter (tag : Tag) (above : List Frame) (before : List Node) : List Node → List Focus
  | [] => []
  | .text kind content :: after => elementsAfter tag above (.text kind content :: before) after
  | .element t children :: after =>
    ⟨⟨t, children⟩, ⟨tag, before, after⟩ :: above⟩ ::
      elementsAfter tag above (.element t children :: before) after

/-- The sibling elements before, nearest first. -/
def previous (f : Focus) : List Focus :=
  match f.above with
  | [] => []
  | frame :: above =>
    elementsBefore frame.tag above (.element f.here.tag f.here.children :: frame.after) frame.before

/-- The sibling elements after. -/
def next (f : Focus) : List Focus :=
  match f.above with
  | [] => []
  | frame :: above =>
    elementsAfter frame.tag above (.element f.here.tag f.here.children :: frame.before) frame.after

/-! ## Inside an element -/

/-- The child elements. -/
def childElements (f : Focus) : List Focus :=
  elementsAfter f.here.tag f.above [] f.here.children

mutual

/-- The elements of a node at a place, in document order. -/
def walk (tag : Tag) (above : List Frame) (before after : List Node) : Node → List Focus
  | .text _ _ => []
  | .element t children =>
    ⟨⟨t, children⟩, ⟨tag, before, after⟩ :: above⟩ ::
      walkList t (⟨tag, before, after⟩ :: above) [] children

/-- The elements of nodes that stand after `before` inside the element `tag`, in document order. -/
def walkList (tag : Tag) (above : List Frame) (before : List Node) : List Node → List Focus
  | [] => []
  | n :: rest => walk tag above before rest n ++ walkList tag above (n :: before) rest

end

/-- **The elements inside**, in document order. -/
def elements (f : Focus) : List Focus :=
  walkList f.here.tag f.above [] f.here.children

/-- The elements of a name inside, in document order. -/
def elementsNamed (f : Focus) (name : String) : List Focus :=
  f.elements.filter (·.name = name)

/-! ## Places -/

/-- How many nodes stand before the element and before each of its ancestors: no two elements of a
page have the same address. -/
def address (f : Focus) : List Nat :=
  f.above.map (·.before.length)

/-- The number of tables around the element. -/
def nestingLevel (f : Focus) : Nat :=
  f.above.countP (·.tag.name = "table")

end Focus

/-! ## Texts -/

namespace Element

/-- The text content without blanks at its ends. -/
def trimmedText (e : Element) : String :=
  Text.trim e.text

/-- The text content with its blank runs collapsed to single spaces, none at the ends. -/
def normalText (e : Element) : String :=
  Text.normalize e.text

end Element

namespace Document

/-- The name of the page itself, which no tag can have. -/
def pageName : String := "[document]"

/-- The page, as an element around all others. -/
def focus (d : Document) : Focus :=
  ⟨⟨⟨pageName, .empty⟩, d.nodes⟩, []⟩

/-- The elements of a page, in document order. -/
def elements (d : Document) : List Focus :=
  d.focus.elements

end Document

end ParcelRecords.Markup
