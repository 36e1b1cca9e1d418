import ParcelRecords.CommandLine.Run

/-!
# The program

Reads the files that a command names, runs it, prints what it prints, and appends to the sheet files
what it writes.

## Main definitions

* `CommandLine.namedFiles` lists the files that a command may read.
* `main` is the program.
-/

namespace ParcelRecords.CommandLine

/-- The paths of the files that a command may read. -/
def namedFiles (args : List String) : List String :=
  match readArguments args with
  | .error _ => []
  | .ok s =>
    match s.source with
    | .schema path => [path, s.page]
    | .url _ => [Workspace.sitesFile, s.page]

/-- Reads the files that are there. -/
def loadFiles : List String → IO (List (String × ByteArray))
  | [] => pure []
  | path :: rest => do
    let more ← loadFiles rest
    try
      let content ← IO.FS.readBinFile path
      pure ((path, content) :: more)
    catch _ => pure more

/-- Appends the rows of each sheet to its file. -/
def saveSheets (sheets : SheetFolder) : IO Unit := do
  unless sheets.isEmpty do
    IO.FS.createDirAll Workspace.sheetFolderName
    for (file, rows) in sheets.entries do
      let handle ← IO.FS.Handle.mk (Workspace.sheetPath file) .append
      handle.putStr rows

end ParcelRecords.CommandLine

open ParcelRecords CommandLine in
/-- Runs a command in the current directory; its exit code is that of the run. -/
def main (args : List String) : IO UInt32 := do
  let files ← loadFiles (namedFiles args)
  let (outcome, after) := run ⟨.ofList files, .empty⟩ args
  (← IO.getStdout).putStr outcome.stdout
  (← IO.getStderr).putStr outcome.stderr
  saveSheets after.sheets
  pure (UInt32.ofNat outcome.exitCode)
