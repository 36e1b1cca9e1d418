import ParcelRecords.Json.Reader
import ParcelRecords.Sheet.Folder
import ParcelRecords.Site.Registry
import ParcelRecords.Workspace.Path

/-!
# The workspace

The directory that commands and services work in: files, and the folder of sheets. Schemas and sites
are read from files of JSON text.

## Main definitions

* `Workspace` holds files and sheets.
* `FileError` says why a file could not be read; `FileError.message` words it.
* `Workspace.writeMessage` words why a sheet could not be written.
* `Workspace.pageText` and `Workspace.schema` read the files of a run.
* `Workspace.registry` is the registry with the sites file laid over it.
-/

namespace ParcelRecords

/-- The files of a directory by name, and its folder of sheets. -/
structure Workspace where
  files : OrderedMap ByteArray
  sheets : SheetFolder := .empty

/-- Why a file could not be read. -/
inductive FileError where
  | missing (path : String)
  | isDirectory (path : String)
  | notText
  | notJson
  | tooManyDigits (digits : Nat)
  /-- The file holds a value of another sort than an object. -/
  | notSchema (path : String) (kind : Json.Kind)
deriving DecidableEq

/-- The word for a sort of values in messages. -/
def kindWord : Json.Kind → String
  | .null => "NoneType"
  | .bool => "bool"
  | .int => "int"
  | .float => "float"
  | .str => "str"
  | .arr => "list"
  | .obj => "dict"

/-- The wording of an error. -/
def FileError.message : FileError → String
  | .missing path => "[Errno 2] No such file or directory: " ++ Text.quoted path
  | .isDirectory path => "[Errno 21] Is a directory: " ++ Text.quoted path
  | .notText => "the file is not valid UTF-8"
  | .notJson => "the file is not valid JSON"
  | .tooManyDigits digits => Text.digitLimit digits
  | .notSchema path kind => path ++ ": schema must be a JSON object, got " ++ kindWord kind

namespace Workspace

/-- The folder of sheets inside the directory. -/
def sheetFolderName : String := "exports"

/-- The path of a sheet. -/
def sheetPath (file : String) : String :=
  sheetFolderName ++ "/" ++ file

/-- The wording of an error of writing. -/
def writeMessage : SheetFolder.WriteError → String
  | .nameTooLong file => "[Errno 36] File name too long: " ++ Text.quoted (sheetPath file)
  | .unwritable text => Text.encodingFault text

/-- Whether a file is inside the directory of a path. -/
def isInside (path file : String) : Bool :=
  (path.toList ++ ['/']).isPrefixOf file.toList

/-- Whether a path is that of a directory: this one, one above it, one that holds a file, or the
folder of sheets. -/
def isDirectory (w : Workspace) (path : String) : Bool :=
  (Path.parts path.toList).all (· = ['.', '.']) || w.files.keys.any (isInside path) ||
    (path = sheetFolderName && !w.sheets.isEmpty)

/-- The bytes of a file at a plain path. -/
def bytes? (w : Workspace) (path : String) : Option ByteArray :=
  match w.files.get? path with
  | some content => some content
  | none => (w.sheets.entries.find? fun s => sheetPath s.1 = path).map (·.2.toUTF8)

/-- The text of a file at a plain path. -/
def text (w : Workspace) (path : String) : Except FileError String :=
  if w.isDirectory path then .error (.isDirectory path)
  else
    match w.bytes? path with
    | none => .error (.missing path)
    | some content =>
      match String.fromUTF8? content with
      | some s => .ok (Text.ofCharacters s)
      | none => .error .notText

/-- Every line break as one line feed. -/
def plainBreaks : List Char → List Char
  | [] => []
  | '\r' :: '\n' :: rest => '\n' :: plainBreaks rest
  | c :: rest => (if c = '\r' then '\n' else c) :: plainBreaks rest

/-- The text of a page, its line breaks made plain. -/
def pageText (w : Workspace) (path : String) : Except FileError String :=
  (w.text path).map fun s => String.ofList (plainBreaks s.toList)

/-- The fields of the object in a file. -/
def schema (w : Workspace) (path : String) : Except FileError (OrderedMap Json) := do
  match Json.read (← w.text path) with
  | .error (.malformed _) => .error .notJson
  | .error (.tooManyDigits n) => .error (.tooManyDigits n)
  | .ok value =>
    match value.fields? with
    | some fields => .ok fields
    | none => .error (.notSchema path value.kind)

/-- The file of further sites. -/
def sitesFile : String := "sites.json"

/-- The further sites; without a sites file there are none. -/
def furtherSites (w : Workspace) : Except FileError (OrderedMap Json) :=
  if (w.files.get? sitesFile).isSome then w.schema sitesFile else .ok .empty

/-- **The registry**: the built-in sites with those of the sites file laid over them. -/
def registry (w : Workspace) : Except FileError Registry :=
  w.furtherSites.map .overlaid

end Workspace

end ParcelRecords
