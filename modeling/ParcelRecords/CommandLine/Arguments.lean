import ParcelRecords.Text.Digit
import ParcelRecords.Text.Quoted
import ParcelRecords.Text.Search
import ParcelRecords.Workspace.Path

/-!
# Arguments of the command line

Reads the words of a command into settings. Options may be cut short as long as one option is meant,
take their value from the next word or from behind an equals sign, and may stand before or after the
page. After two hyphens no word is an option.

## Main definitions

* `CommandLine.Switch` is an option; `CommandLine.UsageError` says why a command is refused.
* `CommandLine.classify` tells options from other words.
* `CommandLine.Settings` is what a command asks for.
* `CommandLine.readArguments` reads a command.
-/

namespace ParcelRecords.CommandLine

/-! ## Options -/

/-- An option of the command. -/
inductive Switch where
  | help
  | url
  | schema
  | format
  | noHeaders
  | exportSheet
  | logLevel
deriving DecidableEq

/-- The spellings of options, in the order in which they are listed. -/
def spellings : List (String × Switch) :=
  [("-h", .help), ("--help", .help), ("--url", .url), ("--schema", .schema), ("--format", .format),
   ("--no-headers", .noHeaders), ("--export", .exportSheet), ("--log-level", .logLevel)]

/-- The name of an option in messages. -/
def Switch.name (o : Switch) : String :=
  "/".intercalate ((spellings.filter (·.2 = o)).map Prod.fst)

/-- Whether an option has a value. -/
def Switch.takesValue : Switch → Bool
  | .url | .schema | .format | .logLevel => true
  | _ => false

/-- The form of the output. -/
inductive Format where
  | json
  | tsv
deriving DecidableEq

/-- The name of a form. -/
def Format.name : Format → String
  | .json => "json"
  | .tsv => "tsv"

/-- All forms. -/
def Format.all : List Format := [.json, .tsv]

/-! ## Refusals -/

/-- Why a command is refused. -/
inductive UsageError where
  | ambiguous (word : String) (candidates : List String)
  | needsValue (o : Switch)
  | ignoresValue (o : Switch) (value : String)
  | noFormat (value : String)
  | excludes (o other : Switch)
  | needsPage
  | needsSource
  | unrecognized (words : List String)
deriving DecidableEq

/-- A message about one option. -/
def aboutOption (o : Switch) (message : String) : String :=
  "argument " ++ o.name ++ ": " ++ message

/-- The wording of a refusal. -/
def UsageError.message : UsageError → String
  | .ambiguous word candidates =>
    "ambiguous option: " ++ word ++ " could match " ++ ", ".intercalate candidates
  | .needsValue o => aboutOption o "expected one argument"
  | .ignoresValue o value => aboutOption o ("ignored explicit argument " ++ Text.quoted value)
  | .noFormat value =>
    aboutOption .format ("invalid choice: " ++ Text.quoted value ++ " (choose from " ++
      ", ".intercalate (Format.all.map fun f => Text.quoted f.name) ++ ")")
  | .excludes o other => aboutOption o ("not allowed with argument " ++ other.name)
  | .needsPage => "the following arguments are required: html_file"
  | .needsSource =>
    "one of the arguments " ++ Switch.url.name ++ " " ++ Switch.schema.name ++ " is required"
  | .unrecognized words => "unrecognized arguments: " ++ " ".intercalate words

/-! ## Words -/

/-- What a word of a command is. -/
inductive Word where
  | plain (word : String)
  /-- The two hyphens after which no word is an option. -/
  | separator
  | option (o : Switch) (value : Option String)
  /-- The one-letter option with letters behind it. -/
  | letters (letters : List Char)
  | unknown (word : String)

/-- The parts of a word around its first equals sign. -/
def splitAtEquals (cs : List Char) : List Char × Option (List Char) :=
  match cs.dropWhile (· ≠ '=') with
  | [] => (cs, none)
  | _ :: value => (cs.takeWhile (· ≠ '='), some value)

/-- The options that a word with two hyphens may mean, with their spellings: the option it spells,
or else all whose spellings it begins. -/
def longCandidates (cs : List Char) : List (String × Word) :=
  let (start, value) := splitAtEquals cs
  let spelled := spellings.filter fun s => s.1.toList = start
  let begun := spellings.filter fun s => start.isPrefixOf s.1.toList
  (if spelled.isEmpty then begun else spelled).map fun s =>
    (s.1, .option s.2 (value.map String.ofList))

/-- The options that a word with one hyphen may mean, with their spellings. -/
def shortCandidates (cs : List Char) : List (String × Word) :=
  (spellings.filter fun s => s.1.toList = cs.take 2).map fun s =>
    (s.1, match cs.drop 2 with
      | [] => .option s.2 none
      | '=' :: value => .letters value
      | letters => .letters letters)

/-- Whether a word is a negative number. -/
def isNegativeNumber (cs : List Char) : Bool :=
  match cs with
  | '-' :: number =>
    let number := if number.getLast? = some '\n' then number.dropLast else number
    let whole := number.takeWhile Text.isDigit
    match number.dropWhile Text.isDigit with
    | [] => !whole.isEmpty
    | c :: places => c = '.' && !places.isEmpty && places.all Text.isDigit
  | _ => false

/-- What a word is. A word with a hyphen in front means an option if it can mean one only; it means
no option if it is a negative number or has a space in it. -/
def classify (word : String) : Except UsageError Word :=
  match word.toList with
  | '-' :: c :: rest =>
    let cs := '-' :: c :: rest
    match if c = '-' then longCandidates cs else shortCandidates cs with
    | [(_, w)] => .ok w
    | [] => .ok (if isNegativeNumber cs || ' ' ∈ cs then .plain word else .unknown word)
    | candidates => .error (.ambiguous word (candidates.map Prod.fst))
  | _ => .ok (.plain word)

/-- What the words of a command are; after two hyphens all are plain. -/
def classifyAll : List String → Except UsageError (List Word)
  | [] => .ok []
  | "--" :: rest => .ok (.separator :: rest.map .plain)
  | word :: rest => do
    let w ← classify word
    let more ← classifyAll rest
    pure (w :: more)

/-! ## Settings -/

/-- What was read of a command. -/
structure Draft where
  page : Option String := none
  url : Option String := none
  schema : Option String := none
  format : Format := .json
  withHeaders : Bool := true
  exports : Bool := false
  logLevel : String := ""
  extras : List String := []

namespace Draft

/-- Puts a value of an option in. -/
def setValue (d : Draft) (o : Switch) (value : String) : Except UsageError Draft :=
  match o with
  | .url =>
    if d.schema.isSome then .error (.excludes .url .schema) else .ok { d with url := some value }
  | .schema =>
    if d.url.isSome then .error (.excludes .schema .url) else .ok { d with schema := some value }
  | .format =>
    match Format.all.find? (·.name = value) with
    | some f => .ok { d with format := f }
    | none => .error (.noFormat value)
  | .logLevel => .ok { d with logLevel := value }
  | o => .error (.ignoresValue o value)

/-- Puts an option without value in. -/
def setFlag (d : Draft) : Switch → Draft
  | .noHeaders => { d with withHeaders := false }
  | .exportSheet => { d with exports := true }
  | _ => d

/-- Puts a word in that is left over. -/
def addExtra (d : Draft) (word : String) : Draft :=
  { d with extras := d.extras ++ [word] }

end Draft

/-- Why reading ends before the last word. -/
inductive Stop where
  | refused (e : UsageError)
  | help

/-- The option that asks for help, with letters behind it: each may ask again. -/
def helpWith (letters : List Char) : Stop :=
  if letters ≠ [] ∧ letters.all (· = 'h') then .help
  else .refused (.ignoresValue .help (String.ofList (letters.dropWhile (· = 'h'))))

/-- Reads words into a draft. The first plain word is the page; a separator directly before or
behind it belongs to it. -/
def readWords (d : Draft) : List Word → Except Stop Draft
  | [] => .ok d
  | .option .help none :: _ => .error .help
  | .letters letters :: _ => .error (helpWith letters)
  | .option o (some value) :: rest =>
    match d.setValue o value with
    | .ok d => readWords d rest
    | .error e => .error (.refused e)
  | .option o none :: .plain value :: rest =>
    if o.takesValue then
      match d.setValue o value with
      | .ok d => readWords d rest
      | .error e => .error (.refused e)
    else readWords (d.setFlag o) (.plain value :: rest)
  | .option o none :: rest =>
    if o.takesValue then .error (.refused (.needsValue o)) else readWords (d.setFlag o) rest
  | .unknown word :: rest => readWords (d.addExtra word) rest
  | .plain word :: .separator :: rest =>
    if d.page.isNone then readWords { d with page := some word } rest
    else readWords (d.addExtra word) (.separator :: rest)
  | .plain word :: rest =>
    if d.page.isNone then readWords { d with page := some word } rest
    else readWords (d.addExtra word) rest
  | .separator :: .plain word :: rest =>
    if d.page.isNone then readWords { d with page := some word } rest
    else readWords (d.addExtra "--") (.plain word :: rest)
  | .separator :: rest => readWords (d.addExtra "--") rest

/-- Where the schema of a run comes from. -/
inductive Source where
  | url (address : String)
  | schema (path : String)

/-- What a command asks for. -/
structure Settings where
  page : String
  source : Source
  format : Format
  withHeaders : Bool
  exports : Bool
  logLevel : String

/-- The settings of a draft, if nothing is missing and nothing is left over. -/
def Draft.settings (d : Draft) : Except UsageError Settings :=
  match d.page, d.schema, d.url with
  | none, _, _ => .error .needsPage
  | _, none, none => .error .needsSource
  | some page, schema, url =>
    let source := match schema with
      | some path => .schema (Path.normalize path)
      | none => .url (url.getD "")
    match d.extras with
    | [] => .ok ⟨Path.normalize page, source, d.format, d.withHeaders, d.exports, d.logLevel⟩
    | extras => .error (.unrecognized extras)

/-- **Reading a command**: its settings, or why it ends before. -/
def readArguments (args : List String) : Except Stop Settings := do
  let words ← (classifyAll args).mapError .refused
  let draft ← readWords {} words
  draft.settings.mapError .refused

end ParcelRecords.CommandLine
