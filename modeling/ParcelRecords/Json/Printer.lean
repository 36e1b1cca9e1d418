import ParcelRecords.Binary64.Text
import ParcelRecords.Json.Basic
import ParcelRecords.Text.Quoted

/-!
# Writing JSON

Two layouts of a JSON value: one line, and one member a line with two blanks of indentation for each
level. Only quotes, backslashes and control characters are escaped.

## Main definitions

* `Json.quote` writes a string.
* `Json.toLine` writes a value on one line.
* `Json.toIndented` writes a value over several lines.
-/

namespace ParcelRecords.Json

/-- A character inside a JSON string. -/
def escape (c : Char) : List Char :=
  if c = '"' then ['\\', '"']
  else if c = '\\' then ['\\', '\\']
  else if c = '\n' then ['\\', 'n']
  else if c = '\r' then ['\\', 'r']
  else if c = '\t' then ['\\', 't']
  else if c = '\x08' then ['\\', 'b']
  else if c = '\x0c' then ['\\', 'f']
  else if c.toNat < 32 then '\\' :: 'u' :: Text.hexNumeral 4 c.toNat
  else [c]

/-- A JSON string. -/
def quote (s : String) : String :=
  String.ofList ('"' :: s.toList.flatMap escape ++ ['"'])

/-- The text of a value that has no members. -/
def atomText : Json → String
  | .null => "null"
  | .bool true => "true"
  | .bool false => "false"
  | .int i => toString i
  | .float x => x.toText .json
  | .str s => quote s
  | .arr _ => "[]"
  | .obj _ => "\x7b\x7d"

/-! ## One line -/

mutual

/-- A value on one line. -/
def toLine : Json → String
  | .arr [] => "[]"
  | .arr (item :: rest) => "[" ++ toLine item ++ itemsLine rest ++ "]"
  | .obj [] => "\x7b\x7d"
  | .obj ((key, value) :: rest) =>
    "\x7b" ++ quote key ++ ":" ++ toLine value ++ fieldsLine rest ++ "\x7d"
  | atom => atomText atom

/-- Further items, a comma before each. -/
def itemsLine : List Json → String
  | [] => ""
  | item :: rest => "," ++ toLine item ++ itemsLine rest

/-- Further fields, a comma before each. -/
def fieldsLine : List (String × Json) → String
  | [] => ""
  | (key, value) :: rest => "," ++ quote key ++ ":" ++ toLine value ++ fieldsLine rest

end

/-! ## Indented -/

/-- A line break and the indentation of a level. -/
def lineAt (level : Nat) : String :=
  String.ofList ('\n' :: List.replicate (2 * level) ' ')

mutual

/-- A value over several lines, at a level. -/
def indented (level : Nat) : Json → String
  | .arr [] => "[]"
  | .arr (item :: rest) =>
    "[" ++ lineAt (level + 1) ++ indented (level + 1) item ++ itemsIndented (level + 1) rest ++
      lineAt level ++ "]"
  | .obj [] => "\x7b\x7d"
  | .obj ((key, value) :: rest) =>
    "\x7b" ++ lineAt (level + 1) ++ quote key ++ ": " ++ indented (level + 1) value ++
      fieldsIndented (level + 1) rest ++ lineAt level ++ "\x7d"
  | atom => atomText atom

/-- Further items, each on a line of its own. -/
def itemsIndented (level : Nat) : List Json → String
  | [] => ""
  | item :: rest => "," ++ lineAt level ++ indented level item ++ itemsIndented level rest

/-- Further fields, each on a line of its own. -/
def fieldsIndented (level : Nat) : List (String × Json) → String
  | [] => ""
  | (key, value) :: rest =>
    "," ++ lineAt level ++ quote key ++ ": " ++ indented level value ++ fieldsIndented level rest

end

/-- A value over several lines. -/
def toIndented (v : Json) : String :=
  indented 0 v

end ParcelRecords.Json
