import ParcelRecords.Proofs.Service.Agreement
import ParcelRecords.Proofs.Site.Routing

/-!
# One sheet for both ways of writing

The command line and the service write the same rows for a page. But they choose the sheet by the
name of the site, and they treat an address without a name differently: the command line has a sheet
of its own for it, and the service has the sheet of the site that is called unknown. An address may
be without a name though a site serves it. So one page grows one sheet either way exactly if its
address has a name.

## Main results

* `SheetFolder.fileName_sheetSite_iff`: when both choose the same sheet
* `CommandLine.run_exportCommand`, `Service.handle_exportRequest`: what each writes
* `command_and_service_write_one_sheet`: what both write, and when it is the same
-/

namespace ParcelRecords

open CommandLine (exportCommand sheetSite)
open Registry (unknownSite)
open Site (mainDomain)

/-! ## The sheet of an address -/

/-- **The command line and the service choose one sheet** exactly if the site is known. -/
theorem SheetFolder.fileName_sheetSite_iff {site : String} :
    fileName (sheetSite site) = fileName site ↔ site ≠ unknownSite := by
  constructor
  · rintro hsame rfl
    have happart : fileName (sheetSite unknownSite) ≠ fileName unknownSite := by decide +kernel
    exact happart hsame
  · intro hknown
    rw [sheetSite, if_neg hknown]

/-! ## What is written -/

section Export

variable {w : Workspace} {r : Registry} {s : Service} {page url html : String} {x : Extraction}
  (hregistry : w.registry = .ok r) (hservice : s.registry = .ok r) (hworkspace : s.workspace = w)
  (hname : page.toList.head? ≠ some '-') (hheld : w.Holds page html) (hbreaks : '\r' ∉ html.toList)
  (hfound : r.found? url html = some (.ok x)) (hsome : x.flat.isEmpty = false)
  (hshow : r.CanShow url html)
  (hfile : (SheetFolder.fileName (r.siteName url)).length ≤ SheetFolder.maxNameLength)

include hregistry hname hheld hbreaks hfound hsome hshow hfile in
/-- The command writes to the sheet for the name of the address. -/
theorem CommandLine.run_exportCommand (format : Format) (withHeaders : Bool) :
    (run w (exportCommand page url format withHeaders)).1.exitCode = 0 ∧
      (run w (exportCommand page url format withHeaders)).2 =
        { w with sheets := w.sheets.append (sheetSite (r.siteName url)) x.flat } := by
  have hargs := readArguments_exportCommand hname url format withHeaders
  obtain ⟨-, htakes⟩ := hshow.canStore hfile x hfound hsome
  obtain ⟨-, hx⟩ := hshow x hfound
  have hdelivered := deliver_of_takes (w := w) (x := ⟨r.siteName url, x.flat⟩)
    (isWritable_render ⟨Path.normalize page, .url url, format, withHeaders, true, ""⟩ hx.1)
    fun _ => takes_sheetSite htakes
  rw [run_eq hargs rfl rfl (hheld.pageText_eq hbreaks) hregistry, hfound]
  simp only [hsome, Bool.false_eq_true, if_false, hdelivered, if_true, and_true]
  rfl

include hservice hworkspace hfound hsome hshow hfile in
/-- The service writes to the sheet of the name of the address. -/
theorem Service.handle_exportRequest (withHeaders : Bool) :
    (s.handle (pageRequest exportPath url html withHeaders)).1.status = 200 ∧
      (s.handle (pageRequest exportPath url html withHeaders)).2.workspace =
        { w with sheets := w.sheets.append (r.siteName url) x.flat } := by
  have htakes := hshow.canStore hfile x hfound hsome
  have hscrape := scrape_eq hservice ⟨url, html, withHeaders⟩
  dsimp only at hscrape
  rw [hfound] at hscrape
  rw [handle_export, exportSheet_of_scrape s hscrape hsome]
  dsimp only
  rw [exportResponse_write, if_pos htakes, workspace_withSheets, workspace_keepingRegistry,
    SheetFolder.write_of_takes s.sheets htakes.2, sheets, hworkspace]
  exact ⟨rfl, rfl⟩

end Export

/-- **One sheet for both ways of writing**. A page without carriage returns, on which something is
found under its address that can be written, is named to the command line and submitted to a service
in the same directory. Both succeed, and both add the rows of the same record to one sheet and change
no other file. They leave the same directory exactly if a pattern has the main domain of the address,
and if that is not what unknown sites are called. -/
theorem command_and_service_write_one_sheet {w : Workspace} {further : OrderedMap Json}
    {s : Service} {page url html : String} {x : Extraction}
    (hfurther : w.furtherSites = .ok further) (hservice : s.registry = w.registry)
    (hworkspace : s.workspace = w) (hname : page.toList.head? ≠ some '-')
    (hheld : w.Holds page html) (hbreaks : '\r' ∉ html.toList)
    (hfound : (Registry.overlaid further).found? url html = some (.ok x))
    (hsome : x.flat.isEmpty = false) (hshow : (Registry.overlaid further).CanShow url html)
    (hfile : (SheetFolder.fileName ((Registry.overlaid further).siteName url)).length ≤
      SheetFolder.maxNameLength) (format : CommandLine.Format) (withHeaders withHeaders' : Bool) :
    let r := Registry.overlaid further
    let command := CommandLine.run w (exportCommand page url format withHeaders)
    let answer := s.handle (Service.pageRequest Service.exportPath url html withHeaders')
    (command.1.exitCode = 0 ∧ answer.1.status = 200) ∧
    (command.2.files = w.files ∧ answer.2.workspace.files = w.files) ∧
    w.sheets.GrowsAt command.2.sheets (SheetFolder.fileName (sheetSite (r.siteName url)))
      (SheetFolder.appended x.flat) ∧
    w.sheets.GrowsAt answer.2.workspace.sheets (SheetFolder.fileName (r.siteName url))
      (SheetFolder.appended x.flat) ∧
    (command.2 = answer.2.workspace ↔
      mainDomain url ∈ r.patterns.map mainDomain ∧ mainDomain url ≠ unknownSite) := by
  intro r command answer
  have hregistry : w.registry = .ok r := Workspace.registry_of_furtherSites hfurther
  obtain ⟨hexit, hcommand⟩ :=
    CommandLine.run_exportCommand hregistry hname hheld hbreaks hfound hsome hshow hfile format
      withHeaders
  obtain ⟨hstatus, hanswer⟩ :=
    Service.handle_exportRequest (hservice.trans hregistry) hworkspace hfound hsome hshow hfile
      withHeaders'
  have hbyCommand : w.sheets.GrowsAt command.2.sheets
      (SheetFolder.fileName (sheetSite (r.siteName url))) (SheetFolder.appended x.flat) := by
    simp only [command, hcommand]
    exact SheetFolder.growsAt_append _ _ _
  have hbyService : w.sheets.GrowsAt answer.2.workspace.sheets
      (SheetFolder.fileName (r.siteName url)) (SheetFolder.appended x.flat) := by
    simp only [answer, hanswer]
    exact SheetFolder.growsAt_append _ _ _
  refine ⟨⟨hexit, hstatus⟩, ⟨?_, ?_⟩, hbyCommand, hbyService, ?_⟩
  · simp only [command, hcommand]
  · simp only [answer, hanswer]
  · rw [← Registry.siteName_ne_unknownSite_iff]
    constructor
    · intro hsame
      -- in one and the same folder only one sheet has grown
      rw [hsame] at hbyCommand
      exact SheetFolder.fileName_sheetSite_iff.1
        (hbyCommand.file_eq hbyService (SheetFolder.appended_ne_empty _))
    · intro hknown
      simp only [command, answer, hcommand, hanswer, sheetSite, if_neg hknown]

theorem command_and_service_write_one_sheet_fixed_site :
    let w := Workspace.ofPage fixedSite "<p></p>"
    w.furtherSites = .ok fixedSite ∧ w.Holds "page.html" "<p></p>" ∧
      (Registry.overlaid fixedSite).Finds "https://records.example/7" "<p></p>" ∧
      (Registry.overlaid fixedSite).CanShow "https://records.example/7" "<p></p>" ∧
      (CommandLine.run w (exportCommand "page.html" "https://records.example/7" .tsv false)).2 =
        ((Service.start w).handle (Service.pageRequest Service.exportPath
          "https://records.example/7" "<p></p>" true)).2.workspace := by
  intro w
  have hfurther : w.furtherSites = .ok fixedSite :=
    Workspace.furtherSites_ofPage fixedSite "<p></p>" isRegular_fixedSite (by decide +kernel)
  have hheld : w.Holds "page.html" "<p></p>" :=
    Workspace.holds_ofPage fixedSite "<p></p>" (by decide)
  have hfinds : (Registry.overlaid fixedSite).Finds "https://records.example/7" "<p></p>" := by
    decide +kernel
  have hdomain : mainDomain "https://records.example/7" ∈
      (Registry.overlaid fixedSite).patterns.map mainDomain := by decide +kernel
  have hknown : mainDomain "https://records.example/7" ≠ unknownSite := by decide +kernel
  have hshow : (Registry.overlaid fixedSite).CanShow "https://records.example/7" "<p></p>" := by
    decide +kernel
  obtain ⟨x, hfound, hsome⟩ := hfinds
  obtain ⟨-, -, -, -, hsame⟩ := command_and_service_write_one_sheet hfurther
    (Service.registry_start w) rfl (by decide) hheld (by decide) hfound hsome hshow
    (by decide +kernel) .tsv false true
  exact ⟨hfurther, hheld, ⟨x, hfound, hsome⟩, hshow, hsame.2 ⟨hdomain, hknown⟩⟩

/-- **A port parts the sheets**: the address is served, but its main domain is not that of the
pattern. -/
theorem sheets_apart_behind_port :
    let w := Workspace.ofPage .empty "<p></p>"
    w.furtherSites = .ok .empty ∧ w.Holds "page.html" "<p></p>" ∧
      (Registry.overlaid .empty).Finds "https://www.miamidade.gov:8443/" "<p></p>" ∧
      (CommandLine.run w
        (exportCommand "page.html" "https://www.miamidade.gov:8443/" .json true)).2.sheets.keys =
          ["export.csv"] ∧
      ((Service.start w).handle (Service.pageRequest Service.exportPath
        "https://www.miamidade.gov:8443/" "<p></p>" true)).2.workspace.sheets.keys =
          ["Unknown_Site.csv"] := by
  intro w
  have hfurther : w.furtherSites = .ok .empty := Workspace.furtherSites_ofPage_empty "<p></p>"
  have hregistry : w.registry = .ok (.overlaid .empty) := Workspace.registry_of_furtherSites hfurther
  have hheld : w.Holds "page.html" "<p></p>" := Workspace.holds_ofPage .empty "<p></p>" (by decide)
  have hfinds : (Registry.overlaid .empty).Finds "https://www.miamidade.gov:8443/" "<p></p>" := by
    decide +kernel
  have hshow : (Registry.overlaid .empty).CanShow "https://www.miamidade.gov:8443/" "<p></p>" := by
    decide +kernel
  have hlength : (SheetFolder.fileName
      ((Registry.overlaid .empty).siteName "https://www.miamidade.gov:8443/")).length ≤
        SheetFolder.maxNameLength := by
    decide +kernel
  have hname : (Registry.overlaid .empty).siteName "https://www.miamidade.gov:8443/" =
      unknownSite := by decide +kernel
  refine ⟨hfurther, hheld, hfinds, ?_, ?_⟩
  -- both sheets are named after the unknown site, each in its own way
  · obtain ⟨x, hfound, hsome⟩ := hfinds
    obtain ⟨-, hcommand⟩ := CommandLine.run_exportCommand hregistry (by decide) hheld (by decide)
      hfound hsome hshow hlength .json true
    have hfile : SheetFolder.fileName (sheetSite unknownSite) = "export.csv" := by decide +kernel
    rw [hcommand, hname, ← hfile]
    rfl
  · obtain ⟨x, hfound, hsome⟩ := hfinds
    obtain ⟨-, hanswer⟩ := Service.handle_exportRequest
      ((Service.registry_start w).trans hregistry) rfl hfound hsome hshow hlength true
    have hfile : SheetFolder.fileName unknownSite = "Unknown_Site.csv" := by decide +kernel
    rw [hanswer, hname, ← hfile]
    rfl

end ParcelRecords
