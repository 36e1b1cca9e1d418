import ParcelRecords.Proofs.Service.Agreement
import ParcelRecords.Proofs.Service.History

/-!
# Answers to submitted pages

The sites file is looked at as a whole only: it has to be an object, whatever it maps its patterns
to. A value that is null serves no address, and what is wrong inside a schema is contained in its
sections. But a schema that is no object is met when it is run, and so is a page that the parser
rejects; and a text that no bytes stand for is met when the answer is sent, or when the record is
written to its sheet. Nothing contains these, and the service answers with an error of its own. To
every other page it answers with a record, or says that there is none.

## Main results

* `Service.status_scrapeResponse`, `Service.status_exportSheet`: the status of an answer
* `Service.submitted_pages_answered`: which submitted pages are errors of the service
-/

namespace ParcelRecords.Service

/-! ## Status codes -/

section Status

variable {s : Service} {r : Registry} (hregistry : s.registry = .ok r) (page : Submission)

include hregistry

/-- **The status of the answer to a scrape**, if the numbers of the schemas are finite. -/
theorem status_scrapeResponse (hfinite : ∀ site ∈ r.sites.entries, site.2.isFinite = true) :
    ((s.scrapeResponse page).status = 500 ↔
        r.CannotRun page.url page.html ∨ ¬r.CanShow page.url page.html) ∧
      ((s.scrapeResponse page).status = 404 ↔ r.schemaFor? page.url = none) ∧
      ((s.scrapeResponse page).status = 500 ∨ (s.scrapeResponse page).status = 404 ∨
        (s.scrapeResponse page).status = 200) := by
  rw [scrapeResponse_eq hregistry hfinite, ← Registry.exists_error_iff,
    ← Registry.found?_eq_none_iff page.html]
  cases hfound : r.found? page.url page.html with
  | none => simp [Response.status, Registry.CanShow, hfound]
  | some found =>
    cases found with
    | error e => simp [Response.status]
    | ok x =>
      dsimp only
      rw [Registry.canShow_iff_of_found hfound]
      split <;> simp [Response.status, *]

/-- **The status of the answer to an export**. -/
theorem status_exportSheet :
    ((s.exportSheet page).1.status = 500 ↔
        r.CannotRun page.url page.html ∨ ¬r.CanStore page.url page.html) ∧
      ((s.exportSheet page).1.status = 404 ↔ r.schemaFor? page.url = none) ∧
      ((s.exportSheet page).1.status = 500 ∨ (s.exportSheet page).1.status = 404 ∨
        (s.exportSheet page).1.status = 422 ∨ (s.exportSheet page).1.status = 200) := by
  rw [exportSheet_eq hregistry, ← Registry.exists_error_iff,
    ← Registry.found?_eq_none_iff page.html]
  cases hfound : r.found? page.url page.html with
  | none => simp [Response.status, Registry.CanStore, hfound]
  | some found =>
    cases found with
    | error e => simp [Response.status]
    | ok x =>
      dsimp only
      cases hempty : x.flat.isEmpty with
      | true => simp [Response.status, Registry.CanStore, hfound, hempty]
      | false =>
        rw [Registry.canStore_iff_of_found hfound hempty, if_neg Bool.false_ne_true]
        split <;> simp [Response.status, *]

end Status

/-! ## Submitted pages -/

/-- **Answers to submitted pages**. The sites file can be read, and its numbers are finite; what
else it maps its patterns to does not matter, nor do the requests before. A page is an error of the
service exactly if its address is served, but by something that cannot be run on it, or if what is
found cannot be shown, or not be stored. It is not found exactly if its address is not served.
Otherwise the scrape answers with the record, and the export says that it was written, or that it is
empty. -/
theorem submitted_pages_answered {w : Workspace} {further : OrderedMap Json}
    (hfurther : w.furtherSites = .ok further)
    (hfinite : ∀ site ∈ further.entries, site.2.isFinite = true) (history : List Request)
    (request : Request) (page : Submission) :
    let r := Registry.overlaid further
    let status := (((start w).handleAll history).2.handle request).1.status
    (request.Submits .scrape page →
      (status = 500 ↔ r.CannotRun page.url page.html ∨ ¬r.CanShow page.url page.html) ∧
      (status = 404 ↔ r.schemaFor? page.url = none) ∧
      (status = 500 ∨ status = 404 ∨ status = 200)) ∧
    (request.Submits .exportSheet page →
      (status = 500 ↔ r.CannotRun page.url page.html ∨ ¬r.CanStore page.url page.html) ∧
      (status = 404 ↔ r.schemaFor? page.url = none) ∧
      (status = 500 ∨ status = 404 ∨ status = 422 ∨ status = 200)) := by
  intro r status
  -- whatever was asked before, the request finds the registry that was there at the start
  have hregistry : ((start w).handleAll history).2.registry = .ok r := by
    rw [registry_handleAll, registry_start]
    exact Workspace.registry_of_furtherSites hfurther
  constructor
  · intro hsubmits
    have hstatus : status = (((start w).handleAll history).2.scrapeResponse page).status := by
      simp only [status, hsubmits.handle_scrape]
    rw [hstatus]
    exact status_scrapeResponse hregistry page (Registry.isFinite_overlaid hfinite)
  · intro hsubmits
    have hstatus : status = (((start w).handleAll history).2.exportSheet page).1.status := by
      simp only [status, hsubmits.handle_export]
    rw [hstatus]
    exact status_exportSheet hregistry page

/-- Further sites of two sorts: the sections of the first are a list and an object, and the second
is none. -/
def mixedSites : OrderedMap Json :=
  .ofList [
    ("records.example", .obj [("broken", .arr []), ("fixed", .obj [("constants", .obj
      [("owner", .str "Doe")])])]),
    ("later.example", .null)]

theorem isRegular_mixedSites : (Json.obj mixedSites.entries).IsRegular := by
  have hentries : mixedSites.entries = [
      ("records.example", .obj [("broken", .arr []), ("fixed", .obj [("constants", .obj
        [("owner", .str "Doe")])])]),
      ("later.example", .null)] := rfl
  simp [hentries, Json.isRegular_obj_iff, Json.isRegular_arr_iff, Json.IsRegular.str,
    Json.IsRegular.null]

theorem submitted_pages_answered_mixed_sites :
    (Workspace.ofPage mixedSites "<p></p>").furtherSites = .ok mixedSites ∧
      (∀ site ∈ mixedSites.entries, site.2.isFinite = true) ∧
      (((start (.ofPage mixedSites "<p></p>")).handleAll
        [pageRequest exportPath "https://records.example/7" "<p></p>" true]).2.handle
        (pageRequest scrapePath "https://records.example/7" "<p></p>" true)).1.status = 200 ∧
      (((start (.ofPage mixedSites "<p></p>")).handleAll []).2.handle
        (pageRequest exportPath "https://later.example/" "<p></p>" true)).1.status = 404 := by
  have hfurther := Workspace.furtherSites_ofPage mixedSites "<p></p>" isRegular_mixedSites
    (by decide +kernel)
  have hfinite : ∀ site ∈ mixedSites.entries, site.2.isFinite = true := by decide +kernel
  refine ⟨hfurther, hfinite, ?_, ?_⟩
  · obtain ⟨hfailed, hmissing, hstatus⟩ := (submitted_pages_answered hfurther hfinite
      [pageRequest exportPath "https://records.example/7" "<p></p>" true] _ _).1
      (submits_scrape "https://records.example/7" "<p></p>" true)
    have hserved : (Registry.overlaid mixedSites).schemaFor? "https://records.example/7" ≠ none :=
      Option.isSome_iff_ne_none.1 (by decide +kernel)
    have hruns : ¬(Registry.overlaid mixedSites).CannotRun "https://records.example/7" "<p></p>" :=
      by decide +kernel
    have hshow : (Registry.overlaid mixedSites).CanShow "https://records.example/7" "<p></p>" := by
      decide +kernel
    rcases hstatus with hstatus | hstatus | hstatus
    · exact absurd (hfailed.1 hstatus) (not_or.2 ⟨hruns, not_not.2 hshow⟩)
    · exact absurd (hmissing.1 hstatus) hserved
    · exact hstatus
  · have hnone : (Registry.overlaid mixedSites).schemaFor? "https://later.example/" = none :=
      Option.isNone_iff_eq_none.1 (by decide +kernel)
    exact ((submitted_pages_answered hfurther hfinite [] _ _).2
      (submits_export "https://later.example/" "<p></p>" true)).2.1.2 hnone

/-- A further site with a list in the place of its schema. -/
def listSite : OrderedMap Json :=
  .ofList [("records.example", .arr [])]

/-- A sites file may map a pattern to a list. Its pages are errors of the service then. -/
theorem page_of_list_site_fails :
    (Workspace.ofPage listSite "<p></p>").furtherSites = .ok listSite ∧
      (∀ site ∈ listSite.entries, site.2.isFinite = true) ∧
      (pageRequest scrapePath "https://records.example/" "<p></p>" true).Submits .scrape
        ⟨"https://records.example/", "<p></p>", true⟩ ∧
      ((start (.ofPage listSite "<p></p>")).handle
        (pageRequest scrapePath "https://records.example/" "<p></p>" true)).1.status = 500 := by
  have hregular : (Json.obj listSite.entries).IsRegular := by
    have hentries : listSite.entries = [("records.example", .arr [])] := rfl
    simp [hentries, Json.isRegular_obj_iff, Json.isRegular_arr_iff]
  have hfurther := Workspace.furtherSites_ofPage listSite "<p></p>" hregular (by decide +kernel)
  have hfinite : ∀ site ∈ listSite.entries, site.2.isFinite = true := by decide +kernel
  have hfails : (Registry.overlaid listSite).CannotRun "https://records.example/" "<p></p>" := by
    decide +kernel
  refine ⟨hfurther, hfinite, submits_scrape _ _ _, ?_⟩
  have hregistry := (registry_start _).trans (Workspace.registry_of_furtherSites hfurther)
  obtain ⟨hstatus, -⟩ := status_scrapeResponse hregistry
    ⟨"https://records.example/", "<p></p>", true⟩ (Registry.isFinite_overlaid hfinite)
  rw [handle_scrape, hstatus]
  exact .inl hfails

end ParcelRecords.Service
