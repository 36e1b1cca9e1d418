import ParcelRecords.OrderedMap

/-!
# Marked-up documents

A page as a forest of elements and pieces of text. Comments, declarations and instructions leave no
node; they only keep the texts before and after them apart.

## Main definitions

* `Markup.Tag` is the name of an element with its attributes.
* `Markup.Node` is an element or a piece of text, `Markup.Element` an element by itself.
* `Markup.TextKind` tells ordinary text from text that belongs to scripts, templates and the like.
* `Markup.Document` is the forest of a page.
* `Element.text` is the text content of an element.
-/

namespace ParcelRecords.Markup

/-- The name of an element, in lowercase, and its attributes. -/
structure Tag where
  name : String
  attributes : OrderedMap String

/-- What a piece of text belongs to. -/
inductive TextKind where
  | ordinary
  /-- Text of a marked section. -/
  | marked
  | script
  | style
  | template
  | rubyText
  | rubyParenthesis
deriving DecidableEq

/-- The kind of the texts inside an element of this name, where it has a kind of its own. -/
def TextKind.ofName? : String → Option TextKind
  | "script" => some .script
  | "style" => some .style
  | "template" => some .template
  | "rt" => some .rubyText
  | "rp" => some .rubyParenthesis
  | _ => none

/-- A node of a document. -/
inductive Node where
  | element (tag : Tag) (children : List Node)
  | text (kind : TextKind) (content : String)

/-- An element of a document. -/
structure Element where
  tag : Tag
  children : List Node

/-- A page. -/
structure Document where
  nodes : List Node

namespace Node

/-- The element that a node is. -/
def element? : Node → Option Element
  | .element tag children => some ⟨tag, children⟩
  | .text _ _ => none

end Node

/-! ## Text content -/

mutual

/-- The texts of the chosen kinds inside a node, in order. -/
def Node.textWith (keep : TextKind → Bool) : Node → String
  | .element _ children => textWithin keep children
  | .text kind content => if keep kind then content else ""

/-- The texts of the chosen kinds inside nodes, in order. -/
def textWithin (keep : TextKind → Bool) : List Node → String
  | [] => ""
  | n :: rest => n.textWith keep ++ textWithin keep rest

end

namespace Element

/-- The name of an element. -/
def name (e : Element) : String :=
  e.tag.name

/-- The value of an attribute. -/
def attribute? (e : Element) (key : String) : Option String :=
  e.tag.attributes.get? key

/-- Whether an attribute is present. -/
def hasAttribute (e : Element) (key : String) : Bool :=
  (e.attribute? key).isSome

/-- The child elements, in order. -/
def childElements (e : Element) : List Element :=
  e.children.filterMap Node.element?

/-- The child elements of one of the names, in order. -/
def childrenNamed (e : Element) (names : List String) : List Element :=
  e.childElements.filter fun c => c.name ∈ names

/-- Whether texts of a kind count towards the content of an element of this name: those of its own
kind, and for most elements the ordinary ones. -/
def countsText (name : String) (kind : TextKind) : Bool :=
  match TextKind.ofName? name with
  | some own => kind = own
  | none => kind = .ordinary || kind = .marked

/-- The text content of an element. -/
def text (e : Element) : String :=
  textWithin (countsText e.name) e.children

end Element

end ParcelRecords.Markup
