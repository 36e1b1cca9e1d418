import ParcelRecords.Extraction.Basic
import ParcelRecords.Json.Writable

/-!
# Responses

What the service answers: its sites, the record of a page, the sheet a record was written to, or why
there is none of these.

## Main definitions

* `Service.Response` is an answer.
* `Response.status` is its status code, `Response.body` its JSON body.
* `Response.sent` is the answer that reaches the client.
-/

namespace ParcelRecords.Service

/-- An answer of the service. -/
inductive Response where
  | sites (patterns : List String)
  | scraped (site : String) (data : Record) (tsv : String) (failures : OrderedMap Failure)
  | exported (site path : String) (created : Bool)
  | unknownPath
  | wrongMethod
  | unsupportedSite
  | nothingFound
  | invalidBody (problems : List Problem)
  | bodyNotJson (position : Nat)
  | bodyUnreadable
  | internalError

namespace Response

/-- The status code of an answer. -/
def status : Response → Nat
  | .sites _ | .scraped .. | .exported .. => 200
  | .bodyUnreadable => 400
  | .unknownPath | .unsupportedSite => 404
  | .wrongMethod => 405
  | .nothingFound | .invalidBody _ | .bodyNotJson _ => 422
  | .internalError => 500

/-- The name of a fault in the answer to a body. -/
def faultKind : Fault → String
  | .missing => "missing"
  | .notFields => "model_attributes_type"
  | .notEntry | .notRowFilter => "model_type"
  | .notString => "string_type"
  | .notList => "list_type"
  | .notObject => "dict_type"
  | .notInteger => "int_type"
  | .hasFraction => "int_from_float"
  | .noIntegerText => "int_parsing"
  | .integerTextTooLong => "int_parsing_size"
  | .notFinite => "finite_number"
  | .notNumber => "float_type"
  | .notBoolean => "bool_type"
  | .unclearBoolean => "bool_parsing"
  | .notShape | .notMethod => "enum"

/-- One thing wrong with a body. -/
def detail (kind : String) (place : List Json) (message : String) : Json :=
  .obj [("type", .str kind), ("loc", .arr place), ("msg", .str message)]

/-- A problem of a body. -/
def problemDetail (p : Problem) : Json :=
  detail (faultKind p.fault) (p.path.map .str) p.fault.message

/-- A body that only says what is wrong. -/
def complaint (detail : Json) : Json :=
  .obj [("detail", detail)]

/-- What an export did. -/
def exportMessage (site : String) (created : Bool) : String :=
  "Data " ++ (if created then "exported to new" else "appended to existing") ++ " export for " ++
    site

/-- The failures of sections by name. -/
def failureTexts (failures : OrderedMap Failure) : Json :=
  .obj (failures.entries.map fun f => (f.1, .str f.2.message))

/-- The body of an answer. -/
def body : Response → Json
  | .sites patterns => .obj [("sites", .arr (patterns.map .str))]
  | .scraped site data tsv failures =>
    .obj [("site", .str site), ("data", .obj data.entries), ("tsv", .str tsv),
      ("errors", failureTexts failures)]
  | .exported site path created =>
    .obj [("success", .bool true), ("message", .str (exportMessage site created)),
      ("path", .str path)]
  | .unknownPath => complaint (.str "Not Found")
  | .wrongMethod => complaint (.str "Method Not Allowed")
  | .unsupportedSite => complaint (.str "Site not supported for scraping.")
  | .nothingFound => complaint (.str "Failed to scrape data")
  | .invalidBody problems => complaint (.arr (problems.map problemDetail))
  | .bodyNotJson position =>
    complaint (.arr
      [detail "json_invalid" [.str "body", .int position] "JSON decode error"])
  | .bodyUnreadable => complaint (.str "There was an error parsing the body")
  | .internalError => .str "Internal Server Error"

/-- An answer as it is sent. If no bytes stand for its body, it is an error of the service. -/
def sent (r : Response) : Response :=
  if r.body.isWritable then r else .internalError

end Response

end ParcelRecords.Service
