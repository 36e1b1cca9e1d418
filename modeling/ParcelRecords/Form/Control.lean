import ParcelRecords.Json.Basic
import ParcelRecords.Markup.Focus
import ParcelRecords.Text.Lower

/-!
# Form controls

The value that a form control would send: the chosen option of a list, whether a box is checked, the
checked button of a group, or the text of a field. Any other element stands for its text.

## Main definitions

* `Form.Value` is the value of a control.
* `Form.chosenOption?` is the option that a list of options stands for.
* `Form.groupValue?` is the value of a group of radio buttons.
* `Form.value` reads a control.
-/

namespace ParcelRecords.Form

open Markup (Element Focus Document)

/-- The value of a control. -/
inductive Value where
  | text (s : String)
  | checked (b : Bool)
  /-- No button of a group is checked. -/
  | unset
deriving DecidableEq

/-- A value as part of a record. -/
def Value.toJson : Value → Json
  | .text s => .str s
  | .checked b => .bool b
  | .unset => .null

/-! ## Lists of options -/

/-- The value of an option: its attribute, or else its text. -/
def optionValue (e : Element) : String :=
  (e.attribute? "value").getD e.normalText

/-- The option that a list stands for. Of the selected ones it is the last, or the first if several
may be selected; without a selected one it is the first of all. -/
def chosenOption? (multiple : Bool) (options : List Element) : Option Element :=
  match options.filter (·.hasAttribute "selected") with
  | [] => options.head?
  | selected => if multiple then selected.head? else selected.getLast?

/-- The value of a list of options; without options it is empty. -/
def selectValue (f : Focus) : String :=
  let options := (f.elementsNamed "option").map (·.here)
  ((chosenOption? (f.here.hasAttribute "multiple") options).map optionValue).getD ""

/-! ## Input fields -/

/-- The type of an input field, in lowercase. -/
def inputType (e : Element) : String :=
  Text.lower ((e.attribute? "type").getD "text")

/-- A radio button of the name that is checked. -/
def isCheckedButton (name : String) (e : Element) : Bool :=
  e.attribute? "name" = some name && inputType e = "radio" && e.hasAttribute "checked"

/-- The value of the first checked radio button of a name on the page. -/
def groupValue? (d : Document) (name : String) : Option String :=
  if name = "" then none
  else
    ((d.focus.elementsNamed "input").find? fun f => isCheckedButton name f.here).map fun f =>
      (f.here.attribute? "value").getD "on"

/-- The value of an input field. -/
def inputValue (d : Document) (e : Element) : Value :=
  match inputType e with
  | "checkbox" => .checked (e.hasAttribute "checked")
  | "radio" =>
    match groupValue? d ((e.attribute? "name").getD "") with
    | some s => .text s
    | none => .unset
  | _ => .text ((e.attribute? "value").getD "")

/-- **The value of a control** on a page. -/
def value (d : Document) (f : Focus) : Value :=
  if f.name = "select" then .text (selectValue f)
  else if f.name = "input" then inputValue d f.here
  else .text f.here.trimmedText

end ParcelRecords.Form
