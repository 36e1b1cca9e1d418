import ParcelRecords.Proofs.Service.Sending
import ParcelRecords.Proofs.Workspace.Files
import ParcelRecords.Service.Basic

/-!
# Histories of requests

A service has two things to remember from one request to the next: the registry, once a request has
read it, and the sheets. Neither shows where it should not. The registry that is kept is the one
that would be read again, since requests write nothing but sheets, and the file of the sites is no
sheet. And a sheet is written by one kind of request only, an export of a page on which something is
found; so the sheets after a history are those before it with the records of these exports written,
one behind the other.

An export that fails may have written by then. No bytes may stand for a cell of its record, and what
stands before that cell has been written already; or none may stand for the name of the site, which
the answer shows. If there are no such texts, an export that is not answered with success writes
nothing.

## Main definitions

* `Service.wasExported`: a request was an export, and was answered with success
* `Service.submitted?`: the site and the record of the page that a request submits
* `Service.exported?`: the site and the record that a request writes to a sheet
* `Service.IsExportable`: the name of a site and the cells of its record can be written
* `Service.Response.SameData`: answers that differ at most in the news of a new sheet

## Main results

* `Service.registry_handleAll`: no history shows in the registry
* `Service.handle_cases`: what one request writes
* `Service.workspace_handleAll`, `Service.handleAll_writes`: what a history writes
* `Service.sameData_handle`: what a request is told depends on the registry alone
* `Service.exports_alone_write`: all of these together
-/

namespace ParcelRecords

/-! ## The registry

What a request finds as the registry stays the same in all that the service does. If the registry is
kept, it is the one found before; if it is not, it is read from files that no request writes. -/

/-- **The registry is read from files**, whatever the sheets hold. -/
theorem Workspace.registry_withSheets (w : Workspace) (sheets : SheetFolder) :
    Workspace.registry { w with sheets } = w.registry := by
  -- the sites file is not the folder of sheets, which alone is a directory on account of a sheet
  have hname : sitesFile ≠ sheetFolderName := by decide
  have hdirectory : isDirectory { w with sheets } sitesFile = w.isDirectory sitesFile := by
    simp [isDirectory, hname]
  unfold registry furtherSites
  dsimp only
  cases hfile : w.files.get? sitesFile with
  | none => rfl
  | some content =>
    -- a file that is there is looked for no further
    have hbytes : bytes? { w with sheets } sitesFile = w.bytes? sitesFile := by
      simp only [bytes?, hfile]
    simp only [schema, text, hdirectory, hbytes]

namespace Service

variable (s : Service) (request : Request)

theorem registry_of_kept {r : Registry} (h : s.kept? = some r) : s.registry = .ok r := by
  rw [registry, h]

theorem registry_of_not_kept (h : s.kept? = none) : s.registry = s.workspace.registry := by
  rw [registry, h]

theorem registry_keepingRegistry : s.keepingRegistry.registry = s.registry := by
  cases hregistry : s.registry with
  | ok r =>
    refine registry_of_kept _ ?_
    rw [keepingRegistry, hregistry]
    rfl
  | error e =>
    -- an error is not kept, so it was met in the directory, and is met there again
    have hnone : s.kept? = none := by
      cases hkept : s.kept? with
      | none => rfl
      | some r =>
        rw [registry_of_kept s hkept] at hregistry
        cases hregistry
    have hagain : s.keepingRegistry.kept? = none := by
      rw [keepingRegistry, hregistry]
      rfl
    rw [registry_of_not_kept _ hagain, ← hregistry, registry_of_not_kept _ hnone]
    rfl

theorem workspace_keepingRegistry : s.keepingRegistry.workspace = s.workspace := rfl

theorem workspace_withSheets (sheets : SheetFolder) :
    (s.withSheets sheets).workspace = { s.workspace with sheets } := rfl

theorem registry_withSheets (sheets : SheetFolder) :
    (s.withSheets sheets).registry = s.registry := by
  unfold registry withSheets
  cases s.kept? with
  | some r => rfl
  | none => exact Workspace.registry_withSheets s.workspace sheets

/-- An export of a page on which something is found writes its record, and says how that went. -/
theorem exportSheet_of_scrape {page : Submission} {x : Scrape} (h : s.scrape page = .ok x)
    (hsome : x.flat.isEmpty = false) :
    s.exportSheet page =
      (s.exportResponse x.site (s.sheets.write x.site x.flat).2,
        s.keepingRegistry.withSheets (s.sheets.write x.site x.flat).1) := by
  simp only [exportSheet, h, hsome, Bool.false_eq_true, if_false]

theorem registry_exportSheet (page : Submission) :
    (s.exportSheet page).2.registry = s.registry := by
  cases hscrape : s.scrape page with
  | error r =>
    simp only [exportSheet, hscrape]
    exact registry_keepingRegistry s
  | ok x =>
    by_cases hempty : x.flat.isEmpty = true
    · simp only [exportSheet, hscrape, hempty, if_true]
      exact registry_keepingRegistry s
    · rw [exportSheet_of_scrape s hscrape (Bool.eq_false_iff.2 hempty), registry_withSheets,
        registry_keepingRegistry]

theorem registry_answer (route : Route) (body : Body) :
    (s.answer route body).2.registry = s.registry := by
  unfold answer
  cases route with
  | sites => exact registry_keepingRegistry s
  | scrape =>
    dsimp only
    cases submission body with
    | ok page => exact registry_keepingRegistry s
    | error r => rfl
  | exportSheet =>
    dsimp only
    cases submission body with
    | ok page => exact registry_exportSheet s page
    | error r => rfl

/-- **One request leaves the registry** as it was found. -/
theorem registry_handle : (s.handle request).2.registry = s.registry := by
  unfold handle
  cases Route.ofPath? request.path with
  | none => rfl
  | some route =>
    dsimp only
    split
    · exact registry_answer s route request.body
    · rfl

theorem handleAll_cons (requests : List Request) :
    s.handleAll (request :: requests) =
      ((s.handle request).1 :: ((s.handle request).2.handleAll requests).1,
        ((s.handle request).2.handleAll requests).2) := by
  simp only [handleAll]

/-- **No history shows in the registry**. -/
theorem registry_handleAll (requests : List Request) :
    (s.handleAll requests).2.registry = s.registry := by
  induction requests generalizing s with
  | nil => rfl
  | cons request rest ih => rw [handleAll_cons, ih, registry_handle]

/-! ## What one request writes -/

/-- A request to write the record of a page to a sheet. -/
def Request.isExport (request : Request) : Bool :=
  Route.ofPath? request.path = some .exportSheet && request.method = "POST"

/-- A request was an export, and was answered with success. -/
def wasExported (x : Request × Response) : Bool :=
  x.1.isExport && x.2.status = 200

/-- The site and the flat record of the page that a request submits, if it submits a page that can
be read. -/
def submitted? : Option (String × Record) :=
  match submission request.body with
  | .error _ => none
  | .ok page =>
    match s.scrape page with
    | .error _ => none
    | .ok x => some (x.site, x.flat)

/-- The site and the flat record that a request writes to a sheet: those of the page that it submits,
if it is an export and the record is not empty. -/
def exported? : Option (String × Record) :=
  if request.isExport then (s.submitted? request).filter fun record => !record.2.isEmpty else none

/-- Bytes stand for the name of a site, and for the cells of its record. -/
def IsExportable (record : String × Record) : Prop :=
  Text.isWritable record.1 = true ∧ Sheet.IsWritable record.2

instance (record : String × Record) : Decidable (IsExportable record) :=
  inferInstanceAs (Decidable (_ ∧ _))

variable {s request}

theorem scrape_congr {t : Service} (h : s.registry = t.registry) (page : Submission) :
    s.scrape page = t.scrape page := by
  rw [scrape, scrape, h]

theorem submitted?_congr {t : Service} (h : s.registry = t.registry) :
    s.submitted? request = t.submitted? request := by
  simp only [submitted?, scrape_congr h]

theorem exported?_congr {t : Service} (h : s.registry = t.registry) :
    s.exported? request = t.exported? request := by
  simp only [exported?, submitted?_congr h]

theorem status_of_submission_eq_error {body : Body} {r : Response}
    (h : submission body = .error r) : r.status ≠ 200 := by
  unfold submission at h
  split at h
  · cases h
    simp [Response.status]
  · cases h
    simp [Response.status]
  · cases h
    simp [Response.status]
  · split at h
    · cases h
    · cases h
      unfold refusal
      split <;> simp [Response.status]

theorem status_of_scrape_eq_error {page : Submission} {r : Response}
    (h : s.scrape page = .error r) : r.status ≠ 200 := by
  unfold scrape at h
  split at h
  · cases h
    simp [Response.status]
  · split at h
    · cases h
      simp [Response.status]
    · split at h
      · cases h
        simp [Response.status]
      · cases h

theorem wasExported_eq_false {response : Response} (h : response.status ≠ 200) :
    wasExported (request, response) = false := by
  simp [wasExported, h]

/-- **The answer to an export** that wrote its record, or broke off: it is a success if the sheet
took the record and the site can be named. -/
theorem exportResponse_write (s : Service) (site : String) (flat : Record) :
    s.exportResponse site (s.sheets.write site flat).2 =
      if Text.isWritable site = true ∧ SheetFolder.Takes site flat then
        .exported site (Workspace.sheetPath (SheetFolder.fileName site))
          (!s.sheets.has (SheetFolder.fileName site))
      else .internalError := by
  by_cases htakes : SheetFolder.Takes site flat
  · rw [SheetFolder.write_of_takes s.sheets htakes, exportResponse]
    by_cases hsite : Text.isWritable site = true
    · rw [if_pos ⟨hsite, htakes⟩,
        Response.sent_of_isWritable (Response.isWritable_body_exported_iff.2 hsite)]
    · rw [if_neg fun h => hsite h.1,
        Response.sent_of_not_isWritable (mt Response.isWritable_body_exported_iff.1 hsite)]
  · have herror := mt (SheetFolder.write_error_eq_none_iff s.sheets).1 htakes
    obtain ⟨e, he⟩ := Option.ne_none_iff_exists'.1 herror
    rw [if_neg fun h => htakes h.2, he]
    rfl

/-- A request that is no export writes nothing. -/
theorem workspace_handle_of_not_export (h : request.isExport = false) :
    (s.handle request).2.workspace = s.workspace := by
  unfold handle
  cases hroute : Route.ofPath? request.path with
  | none => rfl
  | some route =>
    dsimp only
    split
    · rename_i hmethod
      unfold answer
      cases route with
      | sites => rfl
      | scrape =>
        dsimp only
        cases submission request.body <;> rfl
      | exportSheet => simp [Request.isExport, hroute, hmethod, Route.method] at h
    · rfl

theorem handle_of_export (h : request.isExport = true) :
    s.handle request = match submission request.body with
      | .ok page => s.exportSheet page
      | .error r => (r, s) := by
  rw [Request.isExport, Bool.and_eq_true, decide_eq_true_eq, decide_eq_true_eq] at h
  cases hbody : submission request.body with
  | ok page => simp only [handle, h.1, h.2, Route.method, if_true, answer, hbody]
  | error r => simp only [handle, h.1, h.2, Route.method, if_true, answer, hbody]

/-- An export of a page on which nothing is found fails, and writes nothing. -/
theorem exportSheet_of_nothing {page : Submission}
    (h : ∀ x, s.scrape page = .ok x → x.flat.isEmpty = true) :
    (s.exportSheet page).1.status ≠ 200 ∧ (s.exportSheet page).2.workspace = s.workspace := by
  cases hscrape : s.scrape page with
  | error r =>
    simp only [exportSheet, hscrape]
    exact ⟨status_of_scrape_eq_error hscrape, rfl⟩
  | ok x =>
    simp only [exportSheet, hscrape, h x hscrape, if_true]
    exact ⟨by simp [Response.status], rfl⟩

/-- **What one request writes**: nothing, or the record of a page if it is an export. That is
answered with success if the sheet took the record and the site can be named. -/
theorem handle_cases (s : Service) (request : Request) :
    (s.exported? request = none ∧ wasExported (request, (s.handle request).1) = false ∧
        (s.handle request).2.workspace = s.workspace) ∨
      ∃ record, s.exported? request = some record ∧
        (wasExported (request, (s.handle request).1) = true ↔
          Text.isWritable record.1 = true ∧ SheetFolder.Takes record.1 record.2) ∧
        (s.handle request).1 = s.exportResponse record.1 (s.sheets.write record.1 record.2).2 ∧
        (s.handle request).2.workspace =
          { s.workspace with sheets := (s.sheets.write record.1 record.2).1 } := by
  cases hexport : request.isExport with
  | false =>
    exact .inl ⟨by simp [exported?, hexport], by simp [wasExported, hexport],
      workspace_handle_of_not_export hexport⟩
  | true =>
    rw [handle_of_export hexport]
    cases hbody : submission request.body with
    | error r =>
      refine .inl ⟨?_, wasExported_eq_false (status_of_submission_eq_error hbody), rfl⟩
      simp [exported?, submitted?, hbody]
    | ok page =>
      dsimp only
      -- an export writes exactly if something is found on its page
      by_cases hfound : ∃ x, s.scrape page = .ok x ∧ x.flat.isEmpty = false
      · obtain ⟨x, hscrape, hsome⟩ := hfound
        rw [exportSheet_of_scrape s hscrape hsome]
        have hrecord : s.exported? request = some (x.site, x.flat) := by
          simp [exported?, submitted?, hexport, hbody, hscrape, hsome]
        refine .inr ⟨(x.site, x.flat), hrecord, ?_, ?_, ?_⟩
        · dsimp only
          rw [wasExported, hexport, Bool.true_and, decide_eq_true_eq, exportResponse_write]
          split <;> simp [Response.status, *]
        · dsimp only
        · dsimp only
          rw [workspace_withSheets, workspace_keepingRegistry]
      · have hnothing (x : Scrape) (hx : s.scrape page = .ok x) : x.flat.isEmpty = true :=
          Bool.not_eq_false _ ▸ fun hsome => hfound ⟨x, hx, hsome⟩
        obtain ⟨hstatus, hsame⟩ := exportSheet_of_nothing hnothing
        refine .inl ⟨?_, wasExported_eq_false hstatus, hsame⟩
        cases hscrape : s.scrape page with
        | error r => simp [exported?, submitted?, hbody, hscrape]
        | ok x => simp [exported?, submitted?, hbody, hscrape, hnothing x hscrape]

/-- **An export that fails** writes nothing if the name of its site and its cells can be written. -/
theorem workspace_handle_of_isExportable
    (hexportable : ∀ record, s.exported? request = some record → IsExportable record)
    (hnot : wasExported (request, (s.handle request).1) = false) :
    (s.handle request).2.workspace = s.workspace := by
  rcases handle_cases s request with ⟨-, -, hsame⟩ | ⟨record, hrecord, hstatus, -, hwritten⟩
  · exact hsame
  · obtain ⟨hsite, hcells⟩ := hexportable record hrecord
    -- the only thing that can be wrong is the length of the name of the file
    have hlong : SheetFolder.maxNameLength < (SheetFolder.fileName record.1).length := by
      by_contra hshort
      rw [hstatus.2 ⟨hsite, Nat.not_lt.1 hshort, hcells⟩] at hnot
      cases hnot
    rw [hwritten, SheetFolder.write_of_long s.sheets hlong]
    rfl

/-- **An export that is answered with success** has written its record to the sheet of its site. -/
theorem exists_of_wasExported (h : wasExported (request, (s.handle request).1) = true) :
    ∃ site flat, s.submitted? request = some (site, flat) ∧
      (s.handle request).1 = .exported site (Workspace.sheetPath (SheetFolder.fileName site))
        (!s.sheets.has (SheetFolder.fileName site)) ∧
      (s.handle request).2.workspace =
        { s.workspace with sheets := s.sheets.append site flat } := by
  rcases handle_cases s request with ⟨-, hnot, -⟩ | ⟨record, hrecord, hstatus, hanswer, hwritten⟩
  · rw [hnot] at h
    cases h
  · have htaken := hstatus.1 h
    refine ⟨record.1, record.2, ?_, ?_, ?_⟩
    · unfold exported? at hrecord
      split at hrecord
      · exact (Option.filter_eq_some_iff.1 hrecord).1
      · cases hrecord
    · rw [hanswer, exportResponse_write, if_pos htaken]
    · rw [hwritten, SheetFolder.write_of_takes s.sheets htaken.2]

/-! ## What a history writes -/

theorem length_handleAll (s : Service) (requests : List Request) :
    (s.handleAll requests).1.length = requests.length := by
  induction requests generalizing s with
  | nil => rfl
  | cons request rest ih => rw [handleAll_cons, List.length_cons, List.length_cons, ih]

/-- **What a history writes**: the records of its exports, one behind the other, or what can be
written of them. All of them are read with the registry that was there at first. -/
theorem workspace_handleAll (s : Service) (requests : List Request) :
    (s.handleAll requests).2.workspace =
      { s.workspace with sheets := s.sheets.writeAll (requests.filterMap s.exported?) } := by
  induction requests generalizing s with
  | nil => rfl
  | cons request rest ih =>
    -- the rest of the history finds the registry that was there before
    have hread : (s.handle request).2.exported? = s.exported? :=
      funext fun r => exported?_congr (registry_handle s request)
    rw [handleAll_cons, ih, hread]
    rcases handle_cases s request with ⟨hnone, -, hsame⟩ | ⟨record, hrecord, -, -, hwritten⟩
    · rw [List.filterMap_cons_none hnone, sheets, hsame]
      rfl
    · rw [List.filterMap_cons_some hrecord, SheetFolder.writeAll_cons, sheets, hwritten]

/-- **What a history writes** if what it exports can be written: the records of the exports that were
answered with success, one for each and in their order. -/
theorem handleAll_writes {s : Service} {requests : List Request}
    (h : ∀ request ∈ requests, ∀ record, s.exported? request = some record → IsExportable record) :
    ∃ records, ((requests.zip (s.handleAll requests).1).filter wasExported).map
        (fun x => s.submitted? x.1) = records.map some ∧
      (s.handleAll requests).2.workspace =
        { s.workspace with sheets := s.sheets.appendAll records } := by
  induction requests generalizing s with
  | nil => exact ⟨[], rfl, rfl⟩
  | cons request rest ih =>
    -- the rest of the history reads the same pages, and finds the condition as it was
    have hread (x : Request) : (s.handle request).2.submitted? x = s.submitted? x :=
      submitted?_congr (registry_handle s request)
    have hrest : ∀ request' ∈ rest, ∀ record,
        (s.handle request).2.exported? request' = some record → IsExportable record := by
      intro request' hmem record hrecord
      rw [exported?_congr (registry_handle s request)] at hrecord
      exact h request' (List.mem_cons_of_mem _ hmem) record hrecord
    obtain ⟨records, hrecords, hwritten⟩ := ih hrest
    simp only [hread] at hrecords
    rw [handleAll_cons, List.zip_cons_cons]
    cases hexported : wasExported (request, (s.handle request).1) with
    | false =>
      have hsame := workspace_handle_of_isExportable (h request List.mem_cons_self) hexported
      refine ⟨records, ?_, ?_⟩
      · rw [List.filter_cons_of_neg (by simp [hexported]), hrecords]
      · rw [hwritten, sheets, hsame]
        rfl
    | true =>
      obtain ⟨site, flat, hpage, -, happended⟩ := exists_of_wasExported hexported
      refine ⟨(site, flat) :: records, ?_, ?_⟩
      · rw [List.filter_cons_of_pos hexported, List.map_cons, List.map_cons, hrecords, hpage]
      · rw [hwritten, sheets, happended]
        rfl

/-! ## What a request is told

Two services with the same registry give the same answers, but for the word on whether the sheet of
an export was there. -/

/-- Two answers have the same status and the same data. They may differ in whether an export created
its sheet. -/
inductive Response.SameData : Response → Response → Prop where
  | refl (r : Response) : SameData r r
  | exported (site path : String) (created created' : Bool) :
    SameData (.exported site path created) (.exported site path created')

theorem Response.SameData.status_eq {r r' : Response} (h : r.SameData r') :
    r.status = r'.status := by
  cases h with
  | refl => rfl
  | exported => rfl

section SameRegistry

variable {t : Service} (h : s.registry = t.registry)

include h

theorem scrapeResponse_congr (page : Submission) :
    s.scrapeResponse page = t.scrapeResponse page := by
  rw [scrapeResponse, scrapeResponse, scrape_congr h]

theorem sitesResponse_congr : s.sitesResponse = t.sitesResponse := by
  rw [sitesResponse, sitesResponse, h]

theorem sameData_exportSheet (page : Submission) :
    (s.exportSheet page).1.SameData (t.exportSheet page).1 := by
  have hread := scrape_congr h page
  cases hscrape : t.scrape page with
  | error r =>
    simp only [exportSheet, hread, hscrape]
    exact .refl r
  | ok x =>
    cases hempty : x.flat.isEmpty with
    | true =>
      simp only [exportSheet, hread, hscrape, hempty, if_true]
      exact .refl _
    | false =>
      rw [exportSheet_of_scrape s (hread.trans hscrape) hempty,
        exportSheet_of_scrape t hscrape hempty]
      dsimp only
      rw [exportResponse_write, exportResponse_write]
      split
      · exact .exported _ _ _ _
      · exact .refl _

/-- **What a request is told** depends on the registry alone, but for the news of a new sheet. -/
theorem sameData_handle (request : Request) :
    (s.handle request).1.SameData (t.handle request).1 := by
  unfold handle
  cases Route.ofPath? request.path with
  | none => exact .refl _
  | some route =>
    dsimp only
    split
    · unfold answer
      cases route with
      | sites =>
        dsimp only
        rw [sitesResponse_congr h]
        exact .refl _
      | scrape =>
        dsimp only
        cases submission request.body with
        | ok page =>
          dsimp only
          rw [scrapeResponse_congr h]
          exact .refl _
        | error r => exact .refl r
      | exportSheet =>
        dsimp only
        cases submission request.body with
        | ok page => exact sameData_exportSheet h page
        | error r => exact .refl r
    · exact .refl _

end SameRegistry

/-! ## Histories -/

theorem handleAll_concat (s : Service) (requests : List Request) (request : Request) :
    s.handleAll (requests ++ [request]) =
      ((s.handleAll requests).1 ++ [((s.handleAll requests).2.handle request).1],
        ((s.handleAll requests).2.handle request).2) := by
  -- generalized over the service, which the first request changes
  induction requests generalizing s with
  | nil => simp only [List.nil_append, handleAll_cons, handleAll]
  | cons first rest ih => simp only [List.cons_append, handleAll_cons, ih]

/-- The message in the body of an answer. -/
def Response.message? (r : Response) : Option Json :=
  r.body.fields?.bind (·.get? "message")

/-- The messages of exports to a new sheet and to one that was there are told apart. -/
theorem message?_exported_eq_iff (site path : String) (created : Bool) :
    ((Response.exported site path created).message? =
        some (.str ("Data exported to new export for " ++ site)) ↔ created = true) ∧
    ((Response.exported site path created).message? =
        some (.str ("Data appended to existing export for " ++ site)) ↔ created = false) := by
  have hmessage : (Response.exported site path created).message? =
      some (.str (Response.exportMessage site created)) := rfl
  have hne : "Data exported to new export for " ++ site ≠
      "Data appended to existing export for " ++ site := by
    intro h
    have hlist := congrArg String.toList h
    simp at hlist
  rw [hmessage, Option.some_inj, Option.some_inj, Json.str.injEq, Json.str.injEq]
  cases created with
  | true =>
    have htext : Response.exportMessage site true =
        "Data exported to new export for " ++ site := rfl
    simp [htext, hne]
  | false =>
    have htext : Response.exportMessage site false =
        "Data appended to existing export for " ++ site := rfl
    simp [htext, hne.symm]

theorem has_eq_true_iff {folder : SheetFolder} {file : String} :
    folder.has file = true ↔ file ∈ folder.keys := by
  rw [SheetFolder.has, Option.isSome_iff_exists, OrderedMap.mem_keys_iff]

/-- **Exports alone write**. After every history of requests the directory is that of the start with
the records of its exports written to the sheets, in their order, and nothing for any other request.
If the names of their sites and their cells can be written, these are the records of the exports that
were answered with success, and they are appended as a whole.

The next request leaves all files as they are if it is no export that is answered with success, and
what it exports can be written. If it is one, it appends the record of its page to the sheet of the
site, and its message says whether that sheet is new. Whatever came before, its answer has the status
and the data that a service just started would give. -/
theorem exports_alone_write (w : Workspace) (requests : List Request) :
    ((start w).handleAll requests).1.length = requests.length ∧
    ((start w).handleAll requests).2.workspace =
      { w with sheets := w.sheets.writeAll (requests.filterMap (start w).exported?) } ∧
    ((∀ request ∈ requests, ∀ record, (start w).exported? request = some record →
        IsExportable record) →
      ∃ records, ((requests.zip ((start w).handleAll requests).1).filter wasExported).map
          (fun x => (start w).submitted? x.1) = records.map some ∧
        ((start w).handleAll requests).2.workspace =
          { w with sheets := w.sheets.appendAll records }) ∧
    ∀ request,
      let s := ((start w).handleAll requests).2
      let response := (s.handle request).1
      (start w).handleAll (requests ++ [request]) =
        (((start w).handleAll requests).1 ++ [response], (s.handle request).2) ∧
      ((∀ record, (start w).exported? request = some record → IsExportable record) →
        wasExported (request, response) = false → (s.handle request).2.workspace = s.workspace) ∧
      (wasExported (request, response) = true → ∃ site flat,
        (start w).submitted? request = some (site, flat) ∧
        (s.handle request).2.workspace =
          { s.workspace with sheets := s.sheets.append site flat } ∧
        (response.message? = some (.str ("Data exported to new export for " ++ site)) ↔
          SheetFolder.fileName site ∉ s.sheets.keys) ∧
        (response.message? = some (.str ("Data appended to existing export for " ++ site)) ↔
          SheetFolder.fileName site ∈ s.sheets.keys)) ∧
      response.SameData ((start w).handle request).1 ∧
      response.status = ((start w).handle request).1.status := by
  refine ⟨length_handleAll _ requests, workspace_handleAll (start w) requests, handleAll_writes,
    fun request => ?_⟩
  intro s response
  have hregistry : s.registry = (start w).registry := registry_handleAll (start w) requests
  have hsame : response.SameData ((start w).handle request).1 := sameData_handle hregistry request
  refine ⟨handleAll_concat (start w) requests request, ?_, ?_, hsame, hsame.status_eq⟩
  · intro hexportable hnot
    refine workspace_handle_of_isExportable (fun record hrecord => hexportable record ?_) hnot
    rwa [exported?_congr hregistry] at hrecord
  · intro hexported
    obtain ⟨site, flat, hpage, hanswer, happended⟩ := exists_of_wasExported hexported
    obtain ⟨hnew, hold⟩ := message?_exported_eq_iff site
      (Workspace.sheetPath (SheetFolder.fileName site))
      (!s.sheets.has (SheetFolder.fileName site))
    rw [← hanswer] at hnew hold
    refine ⟨site, flat, (submitted?_congr hregistry).symm.trans hpage, happended, ?_, ?_⟩
    · rw [hnew, Bool.not_eq_true', ← has_eq_true_iff, Bool.not_eq_true]
    · rw [hold, Bool.not_eq_false', has_eq_true_iff]

/-- An export of a page of a built-in site, whose record is a constant of its schema. -/
def countyExport : Request where
  method := "POST"
  path := "/api/export"
  body := .json (.obj [("url", .str "https://www.miamidade.gov/"), ("html", .str "<p></p>")])

/-- A second export of one page appends to the sheet that the first one created, and says so. -/
theorem exports_alone_write_twice :
    let s := ((start ⟨.empty, .empty⟩).handleAll [countyExport]).2
    (∀ record, (start ⟨.empty, .empty⟩).exported? countyExport = some record →
        IsExportable record) ∧
      (∃ records, s.workspace = ⟨.empty, SheetFolder.appendAll .empty records⟩) ∧
      wasExported (countyExport, (s.handle countyExport).1) = true ∧
      (s.handle countyExport).1.message? =
        some (.str "Data appended to existing export for miamidade.gov") := by
  have hexportable : ∀ record, (start ⟨.empty, .empty⟩).exported? countyExport = some record →
      IsExportable record := by
    decide +kernel
  have hexported : wasExported (countyExport, ((((start ⟨.empty, .empty⟩).handleAll
      [countyExport]).2).handle countyExport).1) = true := by
    decide +kernel
  have hthere : SheetFolder.fileName "miamidade.gov" ∈
      ((start ⟨.empty, .empty⟩).handleAll [countyExport]).2.sheets.keys := by
    decide +kernel
  have hname : ((start ⟨.empty, .empty⟩).submitted? countyExport).map Prod.fst =
      some "miamidade.gov" := by
    decide +kernel
  obtain ⟨-, -, hwritten, hnext⟩ := exports_alone_write ⟨.empty, .empty⟩ [countyExport]
  obtain ⟨records, -, hsheets⟩ := hwritten (List.forall_mem_singleton.2 hexportable)
  obtain ⟨-, -, happended, -, -⟩ := hnext countyExport
  obtain ⟨site, flat, hpage, -, -, hold⟩ := happended hexported
  rw [hpage, Option.map_some, Option.some_inj] at hname
  obtain rfl : site = "miamidade.gov" := hname
  exact ⟨hexportable, ⟨records, hsheets⟩, hexported, hold.2 hthere⟩

/-! ## An export that breaks off -/

/-- The text of a sites file with a schema whose constant is half of a surrogate pair. -/
def halfValued : String :=
  "\x7b\"records.example\": \x7b\"s\": \x7b\"constants\": \x7b\"a\": \"\\ud800\"\x7d\x7d\x7d\x7d"

/-- The directory with this sites file. -/
def halfValuedSites : Workspace where
  files := .ofList [(Workspace.sitesFile, halfValued.toUTF8)]

/-- An export of a page of this site. -/
def halfValuedExport : Request where
  method := "POST"
  path := "/api/export"
  body := .json (.obj [("url", .str "https://records.example/"), ("html", .str "<p></p>")])

/-- **An export may fail and write**: the name is in the sheet when it turns out that the value
cannot be. -/
theorem failed_export_leaves_sheet :
    halfValuedSites.sheets.entries = [] ∧
      ((start halfValuedSites).handle halfValuedExport).1.status = 500 ∧
      ((start halfValuedSites).handleAll [halfValuedExport]).2.sheets.entries =
        [("records.example.csv", "a\r\n")] := by
  have hstored : halfValuedSites.files.get? Workspace.sitesFile = some halfValued.toUTF8 := rfl
  have htext : halfValuedSites.text Workspace.sitesFile = .ok halfValued :=
    Workspace.text_of_writable hstored (by decide +kernel) (by decide +kernel)
  have hroute : Route.ofPath? halfValuedExport.path = some .exportSheet := by decide +kernel
  refine ⟨rfl, ?_⟩
  simp only [handleAll, handle, hroute, answer, exportSheet, scrape, registry, start,
    Workspace.registry, Workspace.furtherSites, hstored, Workspace.schema, htext]
  decide +kernel

end Service

end ParcelRecords
