import ParcelRecords.Sheet.Basic
import ParcelRecords.Text.CodePoint

/-!
# The sheet folder

One file of comma-separated rows for each site. Files only grow: every record appends its names and
its values. A record is written row by row, and what was written before a row that cannot be stays.

## Main definitions

* `SheetFolder` maps file names to contents.
* `SheetFolder.fileName` is the file of a site.
* `SheetFolder.append` is the folder with a record in the file of its site.
* `SheetFolder.write` writes a record, or what can be written of it; `SheetFolder.WriteError` says
  why it broke off.
* `SheetFolder.listing` shows the files in the order of their names.
-/

namespace ParcelRecords

/-- The contents of the sheet files by file name. -/
abbrev SheetFolder := OrderedMap String

namespace SheetFolder

/-- A character that file names may hold. -/
def isSafe (c : Char) : Bool :=
  ('A' ≤ c && c ≤ 'Z') || ('a' ≤ c && c ≤ 'z') || ('0' ≤ c && c ≤ '9') || c = '.' || c = '_' ||
    c = '-'

/-- Every maximal run of other characters becomes one underscore, written for its last one. -/
def replaceUnsafe : List Char → List Char
  | [] => []
  | c :: rest =>
    if isSafe c then c :: replaceUnsafe rest
    else
      match rest with
      | [] => ['_']
      | d :: _ => if isSafe d then '_' :: replaceUnsafe rest else replaceUnsafe rest

/-- The characters without the underscores at both ends. -/
def stripUnderscores (cs : List Char) : List Char :=
  ((cs.dropWhile (· = '_')).reverse.dropWhile (· = '_')).reverse

/-- The name of a site as part of a file name; a site that leaves nothing has a name of its own. -/
def stem (site : String) : String :=
  match stripUnderscores (replaceUnsafe site.toList) with
  | [] => "export"
  | cs => String.ofList cs

/-- The file of a site. -/
def fileName (site : String) : String :=
  stem site ++ ".csv"

/-- Whether the folder has the file. -/
def has (folder : SheetFolder) (file : String) : Bool :=
  (folder.get? file).isSome

/-- The rows of a record as they are appended to a file. -/
def appended (flat : Record) : String :=
  Delimited.encode .commas (Sheet.rows flat)

/-- Appends the rows of a record to the file of its site, which is created if it is not there. -/
def append (folder : SheetFolder) (site : String) (flat : Record) : SheetFolder :=
  let file := fileName site
  folder.insert file ((folder.get? file).getD "" ++ appended flat)

/-! ## Writing -/

/-- Why a record is not written, or not to its end. -/
inductive WriteError where
  /-- The name of the file is too long for a file to be opened. -/
  | nameTooLong (file : String)
  /-- No bytes stand for a text. -/
  | unwritable (text : String)

/-- The greatest length of the name of a file. -/
def maxNameLength : Nat := 255

/-- Adds text to a file, which is created if it is not there. -/
def extend (folder : SheetFolder) (file text : String) : SheetFolder :=
  folder.insert file ((folder.get? file).getD "" ++ text)

/-- The text of one row. -/
def rowText (row : List String) : String :=
  Delimited.encode .commas [row]

/-- Writes rows to a file one after another, up to the first that no bytes stand for. -/
def writeRows (folder : SheetFolder) (file : String) :
    List (List String) → SheetFolder × Option WriteError
  | [] => (folder, none)
  | row :: rest =>
    if Text.isWritable (rowText row) then (folder.extend file (rowText row)).writeRows file rest
    else (folder, some (.unwritable (rowText row)))

/-- **Writing a record** to the file of its site. The file is created before the first row. -/
def write (folder : SheetFolder) (site : String) (flat : Record) :
    SheetFolder × Option WriteError :=
  let file := fileName site
  if maxNameLength < file.length then (folder, some (.nameTooLong file))
  else (folder.extend file "").writeRows file (Sheet.rows flat)

/-! ## Listing -/

/-- The files with their contents, in the order of their names. -/
def listing (folder : SheetFolder) : List (String × String) :=
  folder.entries.mergeSort fun a b => a.1 ≤ b.1

end SheetFolder

end ParcelRecords
