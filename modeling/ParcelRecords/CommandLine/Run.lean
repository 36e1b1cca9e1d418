import ParcelRecords.CommandLine.Arguments
import ParcelRecords.Extraction.Basic
import ParcelRecords.Json.Printer
import ParcelRecords.Text.Upper
import ParcelRecords.Workspace.Basic

/-!
# Runs of the command line

Reads one page and prints its record; on request the record then goes to the sheet of the site. A
run that fails before it prints leaves no trace. One that cannot write the sheet has printed by then.

## Main definitions

* `CommandLine.Outcome` is how a run ends, with its exit code and what it prints.
* `CommandLine.deliver` prints and writes what was read.
* `CommandLine.run` runs a command in a workspace.
* `CommandLine.runAll` runs several, one after another.
-/

namespace ParcelRecords.CommandLine

/-! ## Outcomes -/

/-- An error that ends a run early. -/
inductive RunError where
  | unknownLevel (level : String)
  | file (e : FileError)
  | page (e : PageError)

/-- The wording of an error. -/
def RunError.message : RunError → String
  | .unknownLevel level => "Unknown level: " ++ Text.quoted level
  | .file e => e.message
  | .page (.rejected r) => r.message
  | .page .notSchema => "the schema of the site is not a JSON object"

/-- How a run ends. -/
inductive Outcome where
  | printed (text : String)
  | help
  | noData
  | unsupportedSite (url : String)
  | misused (e : UsageError)
  | failed (e : RunError)
  /-- Something could not be written, after a text was printed. -/
  | brokenOff (text : String) (e : SheetFolder.WriteError)

/-- The name of the program in messages. -/
def programName : String := "prop-scraper"

/-- The form of a command. -/
def usage : String :=
  "usage: " ++ programName ++ " [-h] (--url URL | --schema SCHEMA) [--format \x7bjson,tsv\x7d]\n" ++
  "                    [--no-headers] [--export] [--log-level LOG_LEVEL]\n" ++
  "                    html_file\n"

/-- The text that explains the command. -/
def helpText : String :=
  usage ++
  "\nExtract property-record tables from a saved HTML page\n" ++
  "\npositional arguments:\n" ++
  "  html_file             Saved HTML page to scrape\n" ++
  "\noptions:\n" ++
  "  -h, --help            show this help message and exit\n" ++
  "  --url URL             Original page URL, used to pick the site schema\n" ++
  "  --schema SCHEMA       JSON schema file to use instead of a built-in site\n" ++
  "  --format \x7bjson,tsv\x7d   Output format (default: json)\n" ++
  "  --no-headers          Omit the header line in TSV output\n" ++
  "  --export              Also append the result to the per-site CSV export\n" ++
  "  --log-level LOG_LEVEL\n" ++
  "                        Logging level (default: INFO)\n"

/-- The line that says why a command is refused. -/
def refusal (e : UsageError) : String :=
  programName ++ ": error: " ++ e.message

namespace Outcome

/-- The exit code of a run. -/
def exitCode : Outcome → Nat
  | .printed _ | .help => 0
  | .noData | .failed _ | .brokenOff .. => 1
  | .unsupportedSite _ | .misused _ => 2

/-- What a run prints on the standard output. -/
def stdout : Outcome → String
  | .printed text => text
  | .help => helpText
  | .brokenOff text _ => text
  | _ => ""

/-- What a run prints on the standard error output. -/
def stderr : Outcome → String
  | .printed _ | .help => ""
  | .noData => "Failed to scrape data\n"
  | .unsupportedSite url => "Site not supported for scraping: " ++ url ++ "\n"
  | .misused e => usage ++ refusal e ++ "\n"
  | .failed e => e.message ++ "\n"
  | .brokenOff _ e => Workspace.writeMessage e ++ "\n"

end Outcome

/-! ## Steps of a run -/

/-- The levels that a log can have. -/
def logLevels : List String :=
  ["CRITICAL", "FATAL", "ERROR", "WARN", "WARNING", "INFO", "DEBUG", "NOTSET"]

/-- Checks the level of the log, in capitals; an empty one is the default. -/
def checkLevel (level : String) : Except RunError Unit :=
  if level = "" ∨ Text.upper level ∈ logLevels then .ok ()
  else .error (.unknownLevel (Text.upper level))

/-- The schema of a run and the name of its site. A schema file is named like its site. -/
def findSchema (w : Workspace) : Source → Except Outcome (Json × String)
  | .schema path =>
    match w.schema path with
    | .error e => .error (.failed (.file e))
    | .ok fields => .ok (.obj fields.entries, Path.stem path)
  | .url address =>
    match w.registry with
    | .error e => .error (.failed (.file e))
    | .ok registry =>
      match registry.schemaFor? address with
      | none => .error (.unsupportedSite address)
      | some value => .ok (value, registry.siteName address)

/-- What was read from a page: the name of its site and the flat record. -/
structure Scrape where
  site : String
  flat : Record

/-- Reads the page of a run, or says why it cannot be read. -/
def scrape (w : Workspace) (s : Settings) : Except Outcome Scrape := do
  (checkLevel s.logLevel).mapError .failed
  let (schema, site) ← findSchema w s.source
  let html ← (w.pageText s.page).mapError fun e => .failed (.file e)
  let x ← (Extraction.ofPage schema html).mapError fun e => .failed (.page e)
  if x.flat.isEmpty then .error .noData else pure ⟨site, x.flat⟩

/-- The printed form of a record. -/
def Settings.render (s : Settings) (flat : Record) : String :=
  match s.format with
  | .json => (Json.obj flat.entries).toIndented ++ "\n"
  | .tsv => Sheet.toTsv s.withHeaders flat ++ "\n"

/-- The site under whose name a record is written; a site that is not known has a sheet of its own.
-/
def sheetSite (site : String) : String :=
  if site = Registry.unknownSite then "export" else site

/-! ## Runs -/

/-- Prints the record of a page and writes it to the sheet of its site, if that is asked for. A text
that no bytes stand for is not printed at all. -/
def deliver (w : Workspace) (s : Settings) (x : Scrape) : Outcome × Workspace :=
  let text := s.render x.flat
  if !Text.isWritable text then (.brokenOff "" (.unwritable text), w)
  else if s.exports then
    match w.sheets.write (sheetSite x.site) x.flat with
    | (sheets, none) => (.printed text, { w with sheets })
    | (sheets, some e) => (.brokenOff text e, { w with sheets })
  else (.printed text, w)

/-- **Running a command**, with the workspace as it is afterwards. -/
def run (w : Workspace) (args : List String) : Outcome × Workspace :=
  match readArguments args with
  | .error .help => (.help, w)
  | .error (.refused e) => (.misused e, w)
  | .ok s =>
    match scrape w s with
    | .error outcome => (outcome, w)
    | .ok x => deliver w s x

/-- Running commands one after another, with the workspace as it is at the end. -/
def runAll (w : Workspace) : List (List String) → List Outcome × Workspace
  | [] => ([], w)
  | args :: rest =>
    let (outcome, w) := run w args
    let (outcomes, w) := runAll w rest
    (outcome :: outcomes, w)

end ParcelRecords.CommandLine
