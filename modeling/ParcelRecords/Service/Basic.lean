import ParcelRecords.Json.Finite
import ParcelRecords.Service.Request
import ParcelRecords.Service.Response
import ParcelRecords.Workspace.Basic

/-!
# The service

Answers requests: lists the sites, reads submitted pages, and writes their records to sheets. Only an
export writes anything, and only to one sheet. The registry is read by the first request that needs
it, and kept.

## Main definitions

* `Service` is the service as it stands: its directory, and the registry once it was read.
* `Service.start` starts the service in a directory.
* `Service.registry` is the registry that a request finds.
* `Service.handle` answers a request.
-/

namespace ParcelRecords

/-- The service as it stands. -/
structure Service where
  workspace : Workspace
  /-- The registry, if an earlier request has read it. -/
  kept? : Option Registry := none

namespace Service

/-- The service started in a directory. -/
def start (w : Workspace) : Service :=
  { workspace := w }

/-- The sheets. -/
def sheets (s : Service) : SheetFolder :=
  s.workspace.sheets

/-- The registry that a request finds: the one kept, or else that of the directory as it is now. One
that cannot be read fails every request that needs it. -/
def registry (s : Service) : Except FileError Registry :=
  match s.kept? with
  | some registry => .ok registry
  | none => s.workspace.registry

/-- The service after a request that needed the registry, which is kept if it could be read. -/
def keepingRegistry (s : Service) : Service :=
  { s with kept? := s.registry.toOption }

/-- What was read from a submitted page: the name of its site, the flat record and the failures. -/
structure Scrape where
  site : String
  flat : Record
  failures : OrderedMap Failure

/-- Reads a submitted page, or says why it cannot be read. A page or a schema that cannot be used is
an error of the service. -/
def scrape (s : Service) (submission : Submission) : Except Response Scrape :=
  match s.registry with
  | .error _ => .error .internalError
  | .ok registry =>
    match registry.schemaFor? submission.url with
    | none => .error .unsupportedSite
    | some value =>
      match Extraction.ofPage value submission.html with
      | .error _ => .error .internalError
      | .ok x => .ok ⟨registry.siteName submission.url, x.flat, x.failures⟩

/-- The answer to a scrape. A record with a number or a text that JSON cannot write is an error of
the service. -/
def scrapeResponse (s : Service) (submission : Submission) : Response :=
  match s.scrape submission with
  | .error r => r
  | .ok x =>
    if Json.areFinite x.flat.values then
      Response.sent
        (.scraped x.site x.flat (Sheet.toTsv submission.withHeaders x.flat) x.failures)
    else .internalError

/-- The service with other sheets. -/
def withSheets (s : Service) (sheets : SheetFolder) : Service :=
  { s with workspace := { s.workspace with sheets } }

/-- The answer to an export that wrote its record, or broke off with an error. -/
def exportResponse (s : Service) (site : String) : Option SheetFolder.WriteError → Response
  | none =>
    let file := SheetFolder.fileName site
    Response.sent (.exported site (Workspace.sheetPath file) (!s.sheets.has file))
  | some _ => .internalError

/-- Writes the record of a page to the sheet of its site. A page without data writes nothing. What
was written stays, even if the rest cannot be written or the answer cannot be sent. -/
def exportSheet (s : Service) (submission : Submission) : Response × Service :=
  match s.scrape submission with
  | .error r => (r, s.keepingRegistry)
  | .ok x =>
    if x.flat.isEmpty then (.nothingFound, s.keepingRegistry)
    else
      let (sheets, error?) := s.sheets.write x.site x.flat
      (s.exportResponse x.site error?, s.keepingRegistry.withSheets sheets)

/-- The list of sites. -/
def sitesResponse (s : Service) : Response :=
  match s.registry with
  | .ok registry => Response.sent (.sites registry.patterns)
  | .error _ => .internalError

/-- The answer to a body with problems. It sends the parts at fault back, which is an error of the
service if JSON cannot write them. -/
def refusal (body : Json) (problems : List Problem) : Response :=
  if problems.all fun p => (echo body p).isFinite && (echo body p).isWritable then
    .invalidBody problems
  else .internalError

/-- Checks the body of a request. -/
def submission (body : Body) : Except Response Submission :=
  match body with
  | .notJson position => .error (.bodyNotJson position)
  | .unreadable => .error .bodyUnreadable
  | .absent => .error (.invalidBody (Submission.read .null).problems)
  | .json value =>
    match Submission.read value with
    | .accepted submission => .ok submission
    | .refused problems => .error (refusal value problems)

/-- What a path serves. -/
inductive Route where
  | sites
  | scrape
  | exportSheet
deriving DecidableEq

/-- The slashes at the end of a path dropped. -/
def dropFinalSlashes (path : List Char) : List Char :=
  (path.reverse.dropWhile (· = '/')).reverse

/-- A path without its query. -/
def withoutQuery (path : List Char) : List Char :=
  path.takeWhile fun c => c ≠ '?' ∧ c ≠ '#'

/-- The route of a path. A query does not matter, nor do slashes at the end: a client is sent on to the
path without them, and follows. The pages on which the service describes itself have no route here. -/
def Route.ofPath? (path : String) : Option Route :=
  match String.ofList (dropFinalSlashes (withoutQuery path.toList)) with
  | "/api/sites" => some .sites
  | "/api/scrape" => some .scrape
  | "/api/export" => some .exportSheet
  | _ => none

/-- The one method of a route. -/
def Route.method : Route → String
  | .sites => "GET"
  | .scrape | .exportSheet => "POST"

/-- The answer of a route. The registry is not looked for until the body is known to be fine. -/
def answer (s : Service) (route : Route) (body : Body) : Response × Service :=
  match route with
  | .sites => (s.sitesResponse, s.keepingRegistry)
  | .scrape =>
    match submission body with
    | .ok x => (s.scrapeResponse x, s.keepingRegistry)
    | .error r => (r, s)
  | .exportSheet =>
    match submission body with
    | .ok x => s.exportSheet x
    | .error r => (r, s)

/-- **Answering a request**, with the service as it stands afterwards. -/
def handle (s : Service) (request : Request) : Response × Service :=
  match Route.ofPath? request.path with
  | none => (.unknownPath, s)
  | some route =>
    if request.method = route.method then s.answer route request.body else (.wrongMethod, s)

/-- The answers to requests one after another, with the service as it stands at the end. -/
def handleAll (s : Service) : List Request → List Response × Service
  | [] => ([], s)
  | request :: rest =>
    let (response, s) := s.handle request
    let (responses, s) := s.handleAll rest
    (response :: responses, s)

end Service

end ParcelRecords
