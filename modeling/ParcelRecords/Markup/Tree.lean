import ParcelRecords.Markup.Basic
import ParcelRecords.Markup.Event

/-!
# Documents from events

Builds the tree of a page. An element lasts until its end tag, until the end tag of an element
around it, or until the end of the page; no element is invented and none is closed for another to
begin.

## Main definitions

* `Place` is where the builder stands: the nodes so far, and the elements still open.
* `Document.ofEvents` builds the tree of events.
* `Document.parse` reads a page.
-/

namespace ParcelRecords.Markup

/-! ## Places -/

/-- Where the builder stands. Nodes are listed last first, open elements innermost first, each with
the nodes before it. -/
structure Place where
  inside : List Node := []
  around : List (Tag × List Node) := []

namespace Place

/-- Adds a node. -/
def add (node : Node) (p : Place) : Place :=
  { p with inside := node :: p.inside }

/-- Opens an element. -/
def enter (tag : Tag) (p : Place) : Place :=
  ⟨[], (tag, p.inside) :: p.around⟩

/-- Closes the innermost elements up to the first that `last` holds of, or all of them. -/
def leaveWhile (last : Tag → Bool) (inside : List Node) : List (Tag × List Node) → Place
  | [] => ⟨inside, []⟩
  | (tag, before) :: around =>
    let inside := .element tag inside.reverse :: before
    if last tag then ⟨inside, around⟩ else leaveWhile last inside around

/-- Whether an element of the name is open. -/
def isOpen (name : String) (p : Place) : Bool :=
  p.around.any (·.1.name = name)

/-- Closes the nearest open element of the name and all inside it; without one nothing is closed. -/
def leave (name : String) (p : Place) : Place :=
  if p.isOpen name then leaveWhile (·.name = name) p.inside p.around else p

/-- Closes all elements. -/
def leaveAll (p : Place) : Place :=
  leaveWhile (fun _ => false) p.inside p.around

/-- The kind of texts at the place: that of the innermost open element with a kind of its own. -/
def textKind (p : Place) : TextKind :=
  (p.around.findSome? fun a => TextKind.ofName? a.1.name).getD .ordinary

end Place

/-! ## Texts -/

/-- A character that a text may consist of without saying anything. -/
def isLayout (c : Char) : Bool :=
  c ∈ [' ', '\n', '\t', '\x0c', '\r']

/-- The elements whose texts keep all their layout. -/
def preformattedNames : List String := ["pre", "textarea"]

/-- The content of a text: one of layout characters alone is reduced to a line feed or a space,
unless layout is kept. -/
def reduceLayout (kept : Bool) (content : List Char) : List Char :=
  if kept || !content.all isLayout then content
  else if '\n' ∈ content then ['\n'] else [' ']

/-! ## Builder -/

/-- The elements that have no content. -/
def voidNames : List String :=
  ["area", "base", "br", "col", "embed", "hr", "img", "input", "keygen", "link", "menuitem", "meta",
   "param", "source", "track", "wbr", "basefont", "bgsound", "command", "frame", "image", "isindex",
   "nextid", "spacer"]

/-- What the builder keeps: its place, the text not yet added, and for every void element closed by
its opening tag a name that an end tag may still spend. -/
structure Builder where
  place : Place := {}
  pending : Option (List Char) := none
  spendable : List String := []

namespace Builder

/-- Adds the pending text as a node of a kind. -/
def flush (kind : TextKind → TextKind) (b : Builder) : Builder :=
  match b.pending with
  | none => b
  | some content =>
    let kept := preformattedNames.any b.place.isOpen
    let text := String.ofList (reduceLayout kept content)
    { b with place := b.place.add (.text (kind b.place.textKind) text), pending := none }

/-- Puts text behind the pending one. -/
def hold (content : List Char) (b : Builder) : Builder :=
  { b with pending := some (b.pending.getD [] ++ content) }

/-- Ends the element of a name. -/
def finish (name : String) (b : Builder) : Builder :=
  let b := b.flush id
  { b with place := b.place.leave name }

/-- An end tag: it spends the name of a void element already closed, or ends an element. -/
def close (name : String) (b : Builder) : Builder :=
  if name ∈ b.spendable then { b with spendable := b.spendable.erase name } else b.finish name

/-- An opening tag. A void element ends at once; an element that closes itself is opened and then
meets its end tag. -/
def enter (tag : Tag) (closesItself : Bool) (b : Builder) : Builder :=
  let b := b.flush id
  let b := { b with place := b.place.enter tag }
  if closesItself then b.close tag.name
  else if tag.name ∈ voidNames then
    let b := b.finish tag.name
    { b with spendable := tag.name :: b.spendable }
  else b

/-- One event. -/
def step (b : Builder) : Event → Builder
  | .text content => b.hold content
  | .markedText content => ((b.flush id).hold content).flush fun _ => .marked
  | .opening name attributes closesItself => b.enter ⟨name, attributes⟩ closesItself
  | .closing name => b.close name
  | .mark => b.flush id

/-- The nodes built, all elements closed. -/
def nodes (b : Builder) : List Node :=
  (b.flush id).place.leaveAll.inside.reverse

end Builder

namespace Document

/-- The tree of a page. -/
def ofEvents (events : List Event) : Document :=
  ⟨(events.foldl Builder.step {}).nodes⟩

/-- **Reading a page**: its tree, or why its markup is refused. -/
def parse (html : String) : Except Rejection Document :=
  (scan html.toList).map ofEvents

end Document

end ParcelRecords.Markup
