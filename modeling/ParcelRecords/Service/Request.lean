import ParcelRecords.Entry.Reader
import ParcelRecords.Json.Reader

/-!
# Requests

What is asked of the service: a method, a path and a body of JSON text. A page is submitted with its
address.

## Main definitions

* `Service.Body` is the body of a request as it was read; `Body.ofText` reads it.
* `Service.Request` is a request.
* `Service.Submission` is a page with its address; `Submission.read` checks a body.
* `Service.echo` is the part of a body that is sent back with a problem.
-/

namespace ParcelRecords.Service

/-- The body of a request. -/
inductive Body where
  | absent
  | json (value : Json)
  /-- The text is not JSON from this position on. -/
  | notJson (position : Nat)
  /-- The text cannot be read. -/
  | unreadable

/-- The text without a mark of its byte order at the beginning. -/
def dropOrderMark (text : String) : String :=
  match text.toList with
  | '\uFEFF' :: rest => String.ofList rest
  | _ => text

/-- The body that a text is. -/
def Body.ofText (text : String) : Body :=
  if text = "" then .absent
  else
    let text := dropOrderMark (Text.ofCharacters text)
    match Json.read text with
    | .ok value => .json value
    | .error (.malformed left) => .notJson (text.length - left)
    | .error (.tooManyDigits _) => .unreadable

/-- A request. -/
structure Request where
  method : String
  path : String
  body : Body

/-- A page submitted with its address. -/
structure Submission where
  url : String
  html : String
  withHeaders : Bool

/-- The place of the body. -/
def bodyPath : List String := ["body"]

/-- A field of the body that has to be there. -/
def requiredField {α : Type} (fields : OrderedMap Json) (key : String)
    (check : List String → Json → Checked α) : Checked α :=
  let path := bodyPath ++ [key]
  match fields.get? key with
  | some value => check path value
  | none => Checked.fault path .missing

/-- A field of the body that may be missing. -/
def optionalField {α : Type} (fields : OrderedMap Json) (key : String) (default : α)
    (check : List String → Json → Checked α) : Checked α :=
  match fields.get? key with
  | some value => check (bodyPath ++ [key]) value
  | none => .accepted default

/-- The submission that the fields of a body are. -/
def Submission.ofFields (fields : OrderedMap Json) : Checked Submission :=
  Submission.mk
    <$> requiredField fields "url" Entry.readString
    <*> requiredField fields "html" Entry.readString
    <*> optionalField fields "include_headers" true Entry.readBoolean

/-- The part of a body that is sent back with a problem: the value at fault, or the whole body if a
field is missing. -/
def echo (body : Json) (p : Problem) : Json :=
  match p.fault, p.path with
  | .missing, _ => body
  | _, [_, key] => (body.fields?.bind (·.get? key)).getD body
  | _, _ => body

/-- **Checking a submission**; null is no body. -/
def Submission.read : Json → Checked Submission
  | .null => Checked.fault bodyPath .missing
  | value =>
    match value.fields? with
    | some fields => ofFields fields
    | none => Checked.fault bodyPath .notFields

end ParcelRecords.Service
