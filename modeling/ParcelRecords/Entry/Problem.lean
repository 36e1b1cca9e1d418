import ParcelRecords.Entry.Basic

/-!
# Problems of raw values

Why a raw entry or the body of a request is refused, and where in it. Checking goes on after a
problem, so that all problems of a value are known at once.

## Main definitions

* `Fault` says what is wrong with one value; `Fault.message` words it.
* `Problem` is a fault with its place.
* `Checked` is a checked value or the problems found, gathered from all parts.
-/

namespace ParcelRecords

/-- What is wrong with one value. -/
inductive Fault where
  /-- A field that has to be there is not. -/
  | missing
  | notFields
  | notEntry
  | notRowFilter
  | notString
  | notList
  | notObject
  | notInteger
  | hasFraction
  | noIntegerText
  | integerTextTooLong
  | notFinite
  | notNumber
  | notBoolean
  | unclearBoolean
  | notShape
  | notMethod
deriving DecidableEq

/-- Names in quotes with commas between them, and with "or" before the last. -/
def alternatives : List String → String
  | [] => ""
  | [a] => "'" ++ a ++ "'"
  | [a, b] => "'" ++ a ++ "' or '" ++ b ++ "'"
  | a :: rest => "'" ++ a ++ "', " ++ alternatives rest

/-- The wording of a fault. -/
def Fault.message : Fault → String
  | .missing => "Field required"
  | .notFields => "Input should be a valid dictionary or object to extract fields from"
  | .notEntry => "Input should be a valid dictionary or instance of FieldConfig"
  | .notRowFilter => "Input should be a valid dictionary or instance of IgnoreRows"
  | .notString => "Input should be a valid string"
  | .notList => "Input should be a valid list"
  | .notObject => "Input should be a valid dictionary"
  | .notInteger => "Input should be a valid integer"
  | .hasFraction => "Input should be a valid integer, got a number with a fractional part"
  | .noIntegerText => "Input should be a valid integer, unable to parse string as an integer"
  | .integerTextTooLong => "Unable to parse input string as an integer, exceeded maximum size"
  | .notFinite => "Input should be a finite number"
  | .notNumber => "Input should be a valid number"
  | .notBoolean => "Input should be a valid boolean"
  | .unclearBoolean => "Input should be a valid boolean, unable to interpret input"
  | .notShape => "Input should be " ++ alternatives (Shape.all.map Shape.name)
  | .notMethod => "Input should be " ++ alternatives (Method.all.map Method.name)

/-- A fault with the names that lead to its place. -/
structure Problem where
  path : List String
  fault : Fault
deriving DecidableEq

/-- The place of a problem, its names joined by points. -/
def Problem.location (p : Problem) : String :=
  ".".intercalate p.path

/-- A checked value, or the problems found. -/
inductive Checked (α : Type) where
  | accepted (value : α)
  | refused (problems : List Problem)

namespace Checked

variable {α β : Type}

/-- Refuses a value for one fault. -/
def fault (path : List String) (f : Fault) : Checked α :=
  .refused [⟨path, f⟩]

/-- Applies a function to an accepted value. -/
def map (f : α → β) : Checked α → Checked β
  | .accepted a => .accepted (f a)
  | .refused ps => .refused ps

/-- Applies a checked function to a checked value; the problems of both are kept in order. -/
def apply (f : Checked (α → β)) (a : Checked α) : Checked β :=
  match f, a with
  | .accepted f, .accepted a => .accepted (f a)
  | .accepted _, .refused ps => .refused ps
  | .refused ps, .accepted _ => .refused ps
  | .refused ps, .refused qs => .refused (ps ++ qs)

instance : Applicative Checked where
  map := Checked.map
  pure := .accepted
  seq f a := apply f (a ())

/-- The problems found. -/
def problems : Checked α → List Problem
  | .accepted _ => []
  | .refused ps => ps

/-- The value, if it was accepted. -/
def value? : Checked α → Option α
  | .accepted a => some a
  | .refused _ => none

/-- Checks the members of a list, each at its position. -/
def list (check : List String → β → Checked α) (path : List String) (n : Nat) :
    List β → Checked (List α)
  | [] => .accepted []
  | item :: rest =>
    apply ((check (path ++ [toString n]) item).map List.cons) (list check path (n + 1) rest)

/-- Checks the members of an object, each under its key. -/
def fields (check : List String → β → Checked α) (path : List String) :
    List (String × β) → Checked (List (String × α))
  | [] => .accepted []
  | (key, item) :: rest =>
    apply ((check (path ++ [key]) item).map fun a => List.cons (key, a)) (fields check path rest)

end Checked

end ParcelRecords
