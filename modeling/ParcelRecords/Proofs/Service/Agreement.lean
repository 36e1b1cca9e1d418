import ParcelRecords.Proofs.CommandLine.PageCommand
import ParcelRecords.Proofs.Service.History

/-!
# The command line and the service agree

A page that is stored in a file and named to the command line, and the same page submitted to the
service with its address. Both look for the schema of the address, run it on the text and join the
names of the record; so they support the same sites, find nothing on the same pages, and show the
same record. They part only in what they say of it.

## Main definitions

* `Service.Request.Submits`: a request submits a page to a route
* `Service.pageRequest`: a request that submits a page
* `Agreement`: the outcome of a command agrees with the answers to a scrape and to an export

## Main results

* `Service.scrapeResponse_eq`, `Service.exportSheet_eq`: the answers to a page and its address
* `Agreement.of_settings`: the agreement, for every command that names a page and its address
* `command_and_service_agree`: the agreement, for every page and address
-/

namespace ParcelRecords

open Markup (Document)

/-! ## Submitted pages -/

namespace Service

/-- The request comes by the path and with the method of the route, and its body is that of a page.
-/
structure Request.Submits (request : Request) (route : Route) (page : Submission) : Prop where
  path : Route.ofPath? request.path = some route
  method : request.method = route.method
  body : submission request.body = .ok page

/-- The request that submits a page under its address to a path. -/
def pageRequest (path url html : String) (withHeaders : Bool) : Request where
  method := "POST"
  path := path
  body := .json (.obj
    [("url", .str url), ("html", .str html), ("include_headers", .bool withHeaders)])

/-- The path that answers with the record of a page. -/
def scrapePath : String := "/api/scrape"

/-- The path that writes the record of a page to a sheet. -/
def exportPath : String := "/api/export"

theorem registry_start (w : Workspace) : (start w).registry = w.registry := rfl

variable (s : Service)

section Submits

variable {request : Request} {page : Submission}

theorem Request.Submits.handle_eq {route : Route} (h : request.Submits route page) :
    s.handle request = s.answer route request.body := by
  simp only [handle, h.path, if_pos h.method]

theorem Request.Submits.handle_scrape (h : request.Submits .scrape page) :
    s.handle request = (s.scrapeResponse page, s.keepingRegistry) := by
  simp only [h.handle_eq, answer, h.body]

theorem Request.Submits.handle_export (h : request.Submits .exportSheet page) :
    s.handle request = s.exportSheet page := by
  simp only [h.handle_eq, answer, h.body]

end Submits

variable (url html : String) (withHeaders : Bool)

theorem submits_scrape :
    (pageRequest scrapePath url html withHeaders).Submits .scrape ⟨url, html, withHeaders⟩ where
  path := by
    change Route.ofPath? scrapePath = _
    decide +kernel
  method := rfl
  body := rfl

theorem submits_export :
    (pageRequest exportPath url html withHeaders).Submits .exportSheet
      ⟨url, html, withHeaders⟩ where
  path := by
    change Route.ofPath? exportPath = _
    decide +kernel
  method := rfl
  body := rfl

theorem handle_scrape :
    s.handle (pageRequest scrapePath url html withHeaders) =
      (s.scrapeResponse ⟨url, html, withHeaders⟩, s.keepingRegistry) :=
  (submits_scrape url html withHeaders).handle_scrape s

theorem handle_export :
    s.handle (pageRequest exportPath url html withHeaders) =
      s.exportSheet ⟨url, html, withHeaders⟩ :=
  (submits_export url html withHeaders).handle_export s

variable {s} {r : Registry} (hregistry : s.registry = .ok r)

include hregistry

theorem scrape_eq (submission : Submission) :
    s.scrape submission = match r.found? submission.url submission.html with
      | none => .error .unsupportedSite
      | some (.error _) => .error .internalError
      | some (.ok x) => .ok ⟨r.siteName submission.url, x.flat, x.failures⟩ := by
  simp only [scrape, hregistry, Registry.found?]
  cases r.schemaFor? submission.url with
  | none => rfl
  | some value =>
    simp only [Option.map_some]
    cases Extraction.ofPage value submission.html <;> rfl

/-- **The answer to a scrape** of a page and its address. -/
theorem scrapeResponse_eq (hfinite : ∀ site ∈ r.sites.entries, site.2.isFinite = true)
    (submission : Submission) :
    s.scrapeResponse submission = match r.found? submission.url submission.html with
      | none => .unsupportedSite
      | some (.error _) => .internalError
      | some (.ok x) =>
        if Text.isWritable (r.siteName submission.url) = true ∧ x.IsWritable then
          .scraped (r.siteName submission.url) x.flat
            (Sheet.toTsv submission.withHeaders x.flat) x.failures
        else .internalError := by
  rw [scrapeResponse, scrape_eq hregistry]
  cases hfound : r.found? submission.url submission.html with
  | none => rfl
  | some found =>
    cases found with
    | error e => rfl
    | ok x =>
      simp only [if_pos (Registry.areFinite_record hfinite hfound)]
      split
      · rename_i hx
        exact Response.sent_of_isWritable (Response.isWritable_body_scraped_iff.2 hx)
      · rename_i hx
        exact Response.sent_of_not_isWritable (mt Response.isWritable_body_scraped_iff.1 hx)

/-- **The answer to an export** of a page and its address. -/
theorem exportSheet_eq (submission : Submission) :
    (s.exportSheet submission).1 = match r.found? submission.url submission.html with
      | none => .unsupportedSite
      | some (.error _) => .internalError
      | some (.ok x) =>
        if x.flat.isEmpty then .nothingFound
        else if Text.isWritable (r.siteName submission.url) = true ∧
            SheetFolder.Takes (r.siteName submission.url) x.flat then
          let file := SheetFolder.fileName (r.siteName submission.url)
          .exported (r.siteName submission.url) (Workspace.sheetPath file)
            (!s.sheets.has file)
        else .internalError := by
  have hscrape := scrape_eq hregistry submission
  cases hfound : r.found? submission.url submission.html with
  | none =>
    rw [hfound] at hscrape
    simp only [exportSheet, hscrape]
  | some found =>
    rw [hfound] at hscrape
    cases found with
    | error e => simp only [exportSheet, hscrape]
    | ok x =>
      cases hempty : x.flat.isEmpty with
      | true => simp only [exportSheet, hscrape, hempty, if_true]
      | false =>
        rw [exportSheet_of_scrape s hscrape hempty]
        dsimp only
        rw [exportResponse_write, hempty, if_neg Bool.false_ne_true]

end Service

/-! ## Agreement -/

/-- How the outcome of a command on a page agrees with the answers to a scrape and to an export of
the page. -/
structure Agreement (html : String) (format : CommandLine.Format) (outcome : CommandLine.Outcome)
    (scraped exported : Service.Response) : Prop where
  /-- The command and the service support the same sites. -/
  unsupported : outcome.exitCode = 2 ↔ scraped.status = 404 ∧ exported.status = 404
  /-- The command fails where the export finds nothing, or is an error of the service. -/
  failed : outcome.exitCode = 1 ↔ exported = .nothingFound ∨ exported.status = 500
  /-- Where the export finds nothing, the scrape shows no data and the command prints nothing. -/
  nothingFound : exported = .nothingFound → outcome.stdout = "" ∧
    ∃ site tsv failures, scraped = .scraped site .empty tsv failures
  /-- The export is an error of the service only for a page that the parser rejects. The scrape is
  one as well then, and the command prints nothing. -/
  rejected : exported.status = 500 → outcome.stdout = "" ∧ scraped.status = 500 ∧
    ∃ rejection, Document.parse html = .error rejection
  /-- Otherwise the command succeeds and prints what the scrape shows. -/
  found : outcome.exitCode ≠ 1 → outcome.exitCode ≠ 2 → outcome.exitCode = 0 ∧
    ∃ site data tsv failures, scraped = .scraped site data tsv failures ∧
      (format = .json → Json.read outcome.stdout = .ok (.obj data.entries)) ∧
      (format = .tsv → outcome.stdout = tsv ++ "\n")

namespace Agreement

open CommandLine (Outcome)
open Service (Response)

variable (html : String) (format : CommandLine.Format)

/-- On a site that is not supported. -/
theorem of_unsupportedSite (url : String) :
    Agreement html format (.unsupportedSite url) .unsupportedSite .unsupportedSite where
  unsupported := ⟨fun _ => ⟨rfl, rfl⟩, fun _ => rfl⟩
  failed := by simp [Outcome.exitCode, Response.status]
  nothingFound h := by cases h
  rejected h := by cases h
  found _ h := absurd rfl h

/-- On a page that is rejected. -/
theorem of_rejection {html : String} {rejection : Markup.Rejection}
    (h : Document.parse html = .error rejection) :
    Agreement html format (.failed (.page (.rejected rejection))) .internalError
      .internalError where
  unsupported := by simp [Outcome.exitCode, Response.status]
  failed := ⟨fun _ => .inr rfl, fun _ => rfl⟩
  nothingFound h := by cases h
  rejected _ := ⟨rfl, rfl, rejection, h⟩
  found h := absurd rfl h

/-- On a page without data. -/
theorem of_empty (site tsv : String) (failures : OrderedMap Failure) :
    Agreement html format .noData (.scraped site .empty tsv failures) .nothingFound where
  unsupported := by simp [Outcome.exitCode, Response.status]
  failed := ⟨fun _ => .inl rfl, fun _ => rfl⟩
  nothingFound _ := ⟨rfl, site, tsv, failures, rfl⟩
  rejected h := by cases h
  found h := absurd rfl h

/-- On a page with a record that is read back from its printed text. -/
theorem of_record (settings : CommandLine.Settings) {flat : Record}
    (hread : Json.read ((Json.obj flat.entries).toIndented ++ "\n") = .ok (.obj flat.entries))
    (site path : String) (created : Bool) (failures : OrderedMap Failure) :
    Agreement html settings.format (.printed (settings.render flat))
      (.scraped site flat (Sheet.toTsv settings.withHeaders flat) failures)
      (.exported site path created) where
  unsupported := by simp [Outcome.exitCode, Response.status]
  failed := by simp [Outcome.exitCode, Response.status]
  nothingFound h := by cases h
  rejected h := by cases h
  found _ _ := by
    refine ⟨rfl, site, flat, _, failures, rfl, fun hjson => ?_, fun htsv => ?_⟩
    · rw [Outcome.stdout, CommandLine.Settings.render, hjson]
      exact hread
    · rw [Outcome.stdout, CommandLine.Settings.render, htsv]

variable {html} {w : Workspace} {s : Service} {r : Registry}

/-- **Every command that names a page and its address** agrees with the service, if both have one
registry, whose schemas are regular values, and objects with finite numbers, and if what is found can
be written. -/
theorem of_settings {args : List String} {settings : CommandLine.Settings} {url : String}
    (hargs : CommandLine.readArguments args = .ok settings) (hsource : settings.source = .url url)
    (hlevel : CommandLine.checkLevel settings.logLevel = .ok ())
    (hpage : w.pageText settings.page = .ok html) (hregistry : w.registry = .ok r)
    (hservice : s.registry = .ok r) (hschemas : Site.AreSchemas r.sites)
    (hregular : ∀ site ∈ r.sites.entries, site.2.IsRegular) (hshow : r.CanShow url html)
    (hfile : (SheetFolder.fileName (r.siteName url)).length ≤ SheetFolder.maxNameLength) :
    Agreement html settings.format (CommandLine.run w args).1
      (s.scrapeResponse ⟨url, html, settings.withHeaders⟩)
      (s.exportSheet ⟨url, html, settings.withHeaders⟩).1 := by
  rw [CommandLine.run_eq hargs hsource hlevel hpage hregistry,
    Service.scrapeResponse_eq hservice fun site hsite => (hschemas site hsite).2,
    Service.exportSheet_eq hservice]
  dsimp only
  -- all three depend on what is found under the address, and on nothing else of the page
  cases hfound : r.found? url html with
  | none => exact of_unsupportedSite html settings.format url
  | some found =>
    cases found with
    | error e =>
      -- schemas that are objects do not fail, so it is the parser that rejects the page
      obtain ⟨rejection, hparse, rfl⟩ := Registry.exists_rejection hschemas hfound
      exact of_rejection settings.format hparse
    | ok x =>
      obtain ⟨hsite, hx⟩ := hshow x hfound
      have htakes : SheetFolder.Takes (r.siteName url) x.flat :=
        ⟨hfile, Sheet.isWritable_of_fields hx.1⟩
      dsimp only
      by_cases hempty : x.flat.isEmpty = true
      · have hnone : x.flat = .empty := OrderedMap.ext (List.isEmpty_iff.1 hempty)
        rw [if_pos hempty, if_pos hempty, if_pos ⟨hsite, hx⟩, hnone]
        exact of_empty html settings.format _ _ _
      · have hprinted := CommandLine.deliver_of_takes (w := w) (x := ⟨r.siteName url, x.flat⟩)
          (CommandLine.isWritable_render settings hx.1)
          fun _ => CommandLine.takes_sheetSite htakes
        rw [if_neg hempty, if_neg hempty, if_pos ⟨hsite, hx⟩, if_pos ⟨hsite, htakes⟩, hprinted]
        exact of_record html settings (Registry.read_record hregular hfound) _ _ _ _

end Agreement

/-- **The command line and the service agree** on every page without carriage returns, under every
address, if the schemas of the sites file are objects with finite numbers, and if what is found can
be written: the name of the site, also as that of a file, the record, and the names of the sections
that failed. -/
theorem command_and_service_agree {w : Workspace} {further : OrderedMap Json} {s : Service}
    {page url html : String} (hfurther : w.furtherSites = .ok further)
    (hschemas : Site.AreSchemas further) (hservice : s.registry = w.registry)
    (hname : page.toList.head? ≠ some '-') (hheld : w.Holds page html)
    (hbreaks : '\r' ∉ html.toList) (hshow : (Registry.overlaid further).CanShow url html)
    (hfile : (SheetFolder.fileName ((Registry.overlaid further).siteName url)).length ≤
      SheetFolder.maxNameLength) (format : CommandLine.Format) (withHeaders : Bool) :
    Agreement html format
      (CommandLine.run w (CommandLine.pageCommand page url format withHeaders)).1
      (s.handle (Service.pageRequest Service.scrapePath url html withHeaders)).1
      (s.handle (Service.pageRequest Service.exportPath url html withHeaders)).1 := by
  have hregistry : w.registry = .ok (.overlaid further) := Workspace.registry_of_furtherSites hfurther
  have hargs := CommandLine.readArguments_pageCommand hname url format withHeaders
  rw [Service.handle_scrape, Service.handle_export]
  exact Agreement.of_settings hargs rfl rfl (hheld.pageText_eq hbreaks) hregistry
    (hservice.trans hregistry) (Workspace.areSchemas_overlaid hschemas)
    (Workspace.isRegular_overlaid hfurther) hshow hfile

/-- A further site, whose only section has constants of several sorts. -/
def fixedSite : OrderedMap Json :=
  .ofList [("records.example", .obj
    [("fixed", .obj [("constants", .obj
      [("owner", .obj [("name", .str "Doe")]), ("years", .arr [.int 2020, .int 2021])])])])]

theorem isRegular_fixedSite : (Json.obj fixedSite.entries).IsRegular := by
  have hyear (n : Int) (h : (Nat.toDigits 10 n.natAbs).length ≤ Json.maxIntDigits) :
      (Json.int n).IsRegular := .int h
  have hentries : fixedSite.entries = [("records.example", .obj
      [("fixed", .obj [("constants", .obj
        [("owner", .obj [("name", .str "Doe")]), ("years", .arr [.int 2020, .int 2021])])])])] :=
    rfl
  simp [hentries, Json.isRegular_obj_iff, Json.isRegular_arr_iff, Json.IsRegular.str,
    hyear 2020 (by decide), hyear 2021 (by decide)]

theorem command_and_service_agree_fixed_site :
    (Workspace.ofPage fixedSite "<p></p>").furtherSites = .ok fixedSite ∧
      Site.AreSchemas fixedSite ∧
      (Workspace.ofPage fixedSite "<p></p>").Holds "page.html" "<p></p>" ∧
      (Registry.overlaid fixedSite).CanShow "https://records.example/7" "<p></p>" ∧
      Agreement "<p></p>" .tsv
        (CommandLine.run (.ofPage fixedSite "<p></p>")
          (CommandLine.pageCommand "page.html" "https://records.example/7" .tsv false)).1
        ((Service.start (.ofPage fixedSite "<p></p>")).handle (Service.pageRequest
          Service.scrapePath "https://records.example/7" "<p></p>" false)).1
        ((Service.start (.ofPage fixedSite "<p></p>")).handle (Service.pageRequest
          Service.exportPath "https://records.example/7" "<p></p>" false)).1 := by
  have hfurther := Workspace.furtherSites_ofPage fixedSite "<p></p>" isRegular_fixedSite
    (by decide +kernel)
  have hheld := Workspace.holds_ofPage fixedSite "<p></p>" (by decide)
  have hschemas : Site.AreSchemas fixedSite := by
    unfold Site.AreSchemas
    decide +kernel
  have hshow : (Registry.overlaid fixedSite).CanShow "https://records.example/7" "<p></p>" := by
    decide +kernel
  exact ⟨hfurther, hschemas, hheld, hshow,
    command_and_service_agree hfurther hschemas (Service.registry_start _) (by decide) hheld
      (by decide) hshow (by decide +kernel) _ _⟩

/-- Markup that the parser rejects ends the command with its exit code for a page without data,
though the service does not say that nothing was found. -/
theorem rejected_page_apart :
    (Workspace.ofPage .empty "<![foo[x]]>").furtherSites = .ok .empty ∧
      (Workspace.ofPage .empty "<![foo[x]]>").Holds "page.html" "<![foo[x]]>" ∧
      (CommandLine.run (.ofPage .empty "<![foo[x]]>")
        (CommandLine.pageCommand "page.html" "https://www.miamidade.gov/" .json true)).1.exitCode =
          1 ∧
      ((Service.start (.ofPage .empty "<![foo[x]]>")).handle (Service.pageRequest
        Service.exportPath "https://www.miamidade.gov/" "<![foo[x]]>" true)).1.status = 500 := by
  have hfurther := Workspace.furtherSites_ofPage_empty "<![foo[x]]>"
  have hheld := Workspace.holds_ofPage .empty "<![foo[x]]>" (by decide)
  have hregistry :
      (Workspace.ofPage .empty "<![foo[x]]>").registry = .ok (.overlaid .empty) := by
    rw [Workspace.registry, hfurther]
    rfl
  have hserved : ((Registry.overlaid .empty).schemaFor? "https://www.miamidade.gov/").isSome =
      true := by
    decide +kernel
  obtain ⟨rejection, hparse⟩ :
      ∃ rejection, Document.parse "<![foo[x]]>" = .error rejection := by
    have hrejected : (Document.parse "<![foo[x]]>").isOk = false := by decide +kernel
    cases hparse : Document.parse "<![foo[x]]>" with
    | error rejection => exact ⟨rejection, rfl⟩
    | ok document =>
      rw [hparse] at hrejected
      cases hrejected
  have hfound := Registry.found?_of_rejection hserved hparse
  have hname : "page.html".toList.head? ≠ some '-' := by decide
  have hargs := CommandLine.readArguments_pageCommand hname "https://www.miamidade.gov/" .json true
  refine ⟨hfurther, hheld, ?_, ?_⟩
  · rw [CommandLine.run_eq hargs rfl rfl (hheld.pageText_eq (by decide)) hregistry, hfound]
    rfl
  · rw [Service.handle_export,
      Service.exportSheet_eq ((Service.registry_start _).trans hregistry), hfound]
    rfl

end ParcelRecords
