import Mathlib.Data.List.Forall2
import ParcelRecords.Proofs.CommandLine.PageCommand
import ParcelRecords.Proofs.Workspace.Files

/-!
# Histories of commands

A command is read, its schema is found, its page is read and searched, and only then does it print
and write. Whatever goes wrong before keeps it from both, so a command that fails then leaves nothing
behind. One that succeeds writes one record to one sheet if it was asked to, and nothing otherwise.
The sheets after a history are those before it with these records appended, one behind the other.

There is one way to fail after printing: a command that was asked to write finds that the sheet does
not take its record, which has names or cells that no bytes stand for. It has created its sheet by
then, and may have written the names.

A command may name a sheet as its page or as its schema. So what it finds depends on the commands
before it, and a history is told turn by turn.

## Main definitions

* `CommandLine.Outcome.Fails`: an outcome of a run that failed
* `CommandLine.Turn`: a command with the workspace that it finds
* `CommandLine.Turn.Yields`: the record of a turn, with the site under whose name it is written
* `CommandLine.Turn.SheetTakes`: the record of a turn is taken by its sheet, if the turn asks for one
* `CommandLine.turns`: the turns of a history

## Main results

* `CommandLine.run_cases`: what one command does
* `CommandLine.runAll_eq_turns`: a history is known from its turns
* `CommandLine.Turn.cases`: what a turn does
* `CommandLine.runAll_writes`: what a history writes
* `CommandLine.failed_runs_leave_no_trace`: all of these together
-/

namespace ParcelRecords.CommandLine

open SheetFolder (Takes)

/-! ## What one command does -/

/-- The run failed: its exit code says so, and it has printed nothing on the standard output. -/
def Outcome.Fails (o : Outcome) : Prop :=
  o.exitCode ≠ 0 ∧ o.stdout = ""

theorem Outcome.fails_failed (e : RunError) : (failed e).Fails :=
  ⟨by simp [exitCode], rfl⟩

theorem Outcome.fails_misused (e : UsageError) : (misused e).Fails :=
  ⟨by simp [exitCode], rfl⟩

theorem Outcome.fails_unsupportedSite (url : String) : (unsupportedSite url).Fails :=
  ⟨by simp [exitCode], rfl⟩

theorem Outcome.fails_noData : noData.Fails :=
  ⟨by simp [exitCode], rfl⟩

theorem Outcome.fails_brokenOff (e : SheetFolder.WriteError) : (brokenOff "" e).Fails :=
  ⟨by simp [exitCode], rfl⟩

section OneRun

variable {w : Workspace} {s : Settings} {o : Outcome}

theorem fails_of_findSchema {source : Source} (h : findSchema w source = .error o) : o.Fails := by
  unfold findSchema at h
  cases source with
  | schema path =>
    dsimp only at h
    split at h
    · cases h
      exact Outcome.fails_failed _
    · cases h
  | url address =>
    dsimp only at h
    split at h
    · cases h
      exact Outcome.fails_failed _
    · split at h
      · cases h
        exact Outcome.fails_unsupportedSite address
      · cases h

/-- **What cannot be read fails the run**, at whichever step. -/
theorem fails_of_scrape (h : scrape w s = .error o) : o.Fails := by
  unfold scrape at h
  rcases cases_of_bind_eq_error h with hlevel | ⟨-, -, h⟩
  · obtain ⟨e, -, rfl⟩ := exists_of_mapError_eq_error hlevel
    exact Outcome.fails_failed e
  rcases cases_of_bind_eq_error h with hschema | ⟨⟨schema, site⟩, -, h⟩
  · exact fails_of_findSchema hschema
  rcases cases_of_bind_eq_error h with hpage | ⟨html, -, h⟩
  · obtain ⟨e, -, rfl⟩ := exists_of_mapError_eq_error hpage
    exact Outcome.fails_failed _
  rcases cases_of_bind_eq_error h with hrun | ⟨x, -, h⟩
  · obtain ⟨e, -, rfl⟩ := exists_of_mapError_eq_error hrun
    exact Outcome.fails_failed _
  split at h
  · cases h
    exact Outcome.fails_noData
  · cases h

/-- What was read comes from the schema and the page that the settings name, and is not empty. -/
theorem exists_of_scrape {x : Scrape} (h : scrape w s = .ok x) :
    ∃ schema html extraction, findSchema w s.source = .ok (schema, x.site) ∧
      w.pageText s.page = .ok html ∧ Extraction.ofPage schema html = .ok extraction ∧
      extraction.flat.isEmpty = false ∧ x.flat = extraction.flat := by
  unfold scrape at h
  obtain ⟨-, -, h⟩ := exists_of_bind_eq_ok h
  obtain ⟨⟨schema, site⟩, hschema, h⟩ := exists_of_bind_eq_ok h
  obtain ⟨html, hpage, h⟩ := exists_of_bind_eq_ok h
  obtain ⟨extraction, hrun, h⟩ := exists_of_bind_eq_ok h
  split at h
  · cases h
  · rename_i hsome
    cases h
    exact ⟨schema, html, extraction, hschema, eq_ok_of_mapError hpage, eq_ok_of_mapError hrun,
      Bool.eq_false_iff.2 hsome, rfl⟩

end OneRun

/-- **What one command does**: it shows the help, it fails, or it prints the record that was read,
and then writes it if it was asked to. Only this last changes the workspace; it may break off, if the
sheet does not take the record. -/
theorem run_cases (w : Workspace) (args : List String) :
    (readArguments args = .error .help ∧ run w args = (.help, w)) ∨
      (∃ o : Outcome, o.Fails ∧ run w args = (o, w)) ∨
      ∃ s x, readArguments args = .ok s ∧ scrape w s = .ok x ∧
        (run w args = (.printed (s.render x.flat),
            if s.exports then { w with sheets := w.sheets.append (sheetSite x.site) x.flat }
            else w) ∨
          (s.exports = true ∧ ¬Takes (sheetSite x.site) x.flat ∧
            ∃ e, run w args = (.brokenOff (s.render x.flat) e,
              { w with sheets := (w.sheets.write (sheetSite x.site) x.flat).1 }))) := by
  unfold run
  cases hargs : readArguments args with
  | error stop =>
    cases stop with
    | help => exact .inl ⟨rfl, rfl⟩
    | refused e => exact .inr (.inl ⟨_, Outcome.fails_misused e, rfl⟩)
  | ok s =>
    dsimp only
    cases hscrape : scrape w s with
    | error o => exact .inr (.inl ⟨o, fails_of_scrape hscrape, rfl⟩)
    | ok x =>
      dsimp only
      rcases deliver_cases w s x with ⟨e, hrun⟩ | hrun | hrun
      · exact .inr (.inl ⟨_, Outcome.fails_brokenOff e, hrun⟩)
      · exact .inr (.inr ⟨s, x, rfl, hscrape, .inl hrun⟩)
      · exact .inr (.inr ⟨s, x, rfl, hscrape, .inr hrun⟩)

/-! ## Turns -/

/-- A command, and the workspace that it finds. -/
structure Turn where
  before : Workspace
  args : List String

namespace Turn

/-- How the command ends. -/
def outcome (t : Turn) : Outcome :=
  (run t.before t.args).1

/-- The workspace that the command leaves. -/
def after (t : Turn) : Workspace :=
  (run t.before t.args).2

/-- The command asks for its record to be written. -/
def asksForSheet (t : Turn) : Bool :=
  match readArguments t.args with
  | .ok s => s.exports
  | .error _ => false

/-- The command asked for its record to be written, and ended with success. -/
def wasExported (t : Turn) : Bool :=
  t.asksForSheet && t.outcome.exitCode = 0

/-- The flat record that the schema of the command reads from its page, with the site under whose
name it is written. It is not empty. -/
def Yields (t : Turn) (record : String × Record) : Prop :=
  ∃ s schema site html x, readArguments t.args = .ok s ∧
    findSchema t.before s.source = .ok (schema, site) ∧ t.before.pageText s.page = .ok html ∧
    Extraction.ofPage schema html = .ok x ∧ x.flat.isEmpty = false ∧
    record = (sheetSite site, x.flat)

/-- If the command asks for its record to be written, the sheet takes the record. -/
def SheetTakes (t : Turn) : Prop :=
  t.asksForSheet = true → ∀ record, t.Yields record → Takes record.1 record.2

theorem yields_of_scrape {t : Turn} {s : Settings} {x : Scrape}
    (hargs : readArguments t.args = .ok s) (hx : scrape t.before s = .ok x) :
    t.Yields (sheetSite x.site, x.flat) := by
  obtain ⟨schema, html, extraction, hschema, hpage, hfound, hsome, hflat⟩ := exists_of_scrape hx
  exact ⟨s, schema, x.site, html, extraction, hargs, hschema, hpage, hfound, hsome, by rw [hflat]⟩

/-- **What a turn does**: it fails and leaves no trace, or succeeds, and then writes its record if it
was exported, and nothing otherwise. Or it asks for a sheet that does not take its record, and leaves
what was written of it. -/
theorem cases (t : Turn) :
    (t.outcome.Fails ∧ t.after = t.before) ∨
      (t.outcome.exitCode = 0 ∧ t.wasExported = false ∧ t.after = t.before) ∨
      (∃ record, t.outcome.exitCode = 0 ∧ t.wasExported = true ∧ t.Yields record ∧
        t.after = { t.before with sheets := t.before.sheets.append record.1 record.2 }) ∨
      ∃ record, t.outcome.exitCode ≠ 0 ∧ t.asksForSheet = true ∧ t.Yields record ∧
        ¬Takes record.1 record.2 ∧
        t.after = { t.before with sheets := (t.before.sheets.write record.1 record.2).1 } := by
  unfold wasExported asksForSheet after outcome
  rcases run_cases t.before t.args with ⟨hargs, hrun⟩ | ⟨o, hfails, hrun⟩ | ⟨s, x, hargs, hx, hrun⟩
  · rw [hargs, hrun]
    exact .inr (.inl ⟨rfl, rfl, rfl⟩)
  · rw [hrun]
    exact .inl ⟨hfails, rfl⟩
  · have hyields : t.Yields (sheetSite x.site, x.flat) := yields_of_scrape hargs hx
    rw [hargs]
    rcases hrun with hrun | ⟨hexports, hnot, e, hrun⟩
    · rw [hrun]
      cases hexports : s.exports with
      | false => exact .inr (.inl ⟨rfl, by simp [hexports], rfl⟩)
      | true =>
        exact .inr (.inr (.inl ⟨_, rfl, by simp [hexports, Outcome.exitCode], hyields, rfl⟩))
    · rw [hrun]
      exact .inr (.inr (.inr ⟨_, by simp [Outcome.exitCode], hexports, hyields, hnot, rfl⟩))

/-- **A turn that fails** leaves no trace, unless the sheet that it asks for does not take its
record. -/
theorem traceless_or_of_exitCode {t : Turn} (h : t.outcome.exitCode ≠ 0) :
    (t.outcome.stdout = "" ∧ t.after = t.before) ∨
      ∃ record, t.asksForSheet = true ∧ t.Yields record ∧ ¬Takes record.1 record.2 ∧
        t.after = { t.before with sheets := (t.before.sheets.write record.1 record.2).1 } := by
  rcases t.cases with ⟨hfails, hsame⟩ | ⟨hcode, -⟩ | ⟨-, hcode, -⟩ | ⟨record, -, hrecord⟩
  · exact .inl ⟨hfails.2, hsame⟩
  · exact absurd hcode h
  · exact absurd hcode h
  · exact .inr ⟨record, hrecord⟩

/-- **What a turn writes** whose sheet takes its record: the record if it was exported, and nothing
otherwise. -/
theorem SheetTakes.writes {t : Turn} (h : t.SheetTakes) :
    (t.wasExported = false ∧ t.after = t.before) ∨
      ∃ record, t.wasExported = true ∧ t.Yields record ∧
        t.after = { t.before with sheets := t.before.sheets.append record.1 record.2 } := by
  rcases t.cases with ⟨hfails, hsame⟩ | ⟨-, hnot, hsame⟩ | ⟨record, -, hrecord⟩ |
    ⟨record, -, hasks, hyields, hnot, -⟩
  · exact .inl ⟨by simp [wasExported, hfails.1], hsame⟩
  · exact .inl ⟨hnot, hsame⟩
  · exact .inr ⟨record, hrecord⟩
  · exact absurd (h hasks record hyields) hnot

section PageCommand

variable {t : Turn} {settings : Settings} {r : Registry} {url html : String}
  (hargs : readArguments t.args = .ok settings) (hsource : settings.source = .url url)
  (hregistry : t.before.registry = .ok r) (hpage : t.before.pageText settings.page = .ok html)

include hargs hsource hregistry hpage

/-- A command that names a page and its address yields what is found there. -/
theorem Yields.exists_found {record : String × Record} (h : t.Yields record) :
    ∃ x, r.found? url html = some (.ok x) ∧ x.flat.isEmpty = false ∧
      record = (sheetSite (r.siteName url), x.flat) := by
  obtain ⟨s, schema, site, html', x, hargs', hschema, hpage', hrun, hsome, rfl⟩ := h
  cases hargs.symm.trans hargs'
  cases hpage.symm.trans hpage'
  simp only [hsource, findSchema, hregistry] at hschema
  split at hschema
  · cases hschema
  · rename_i value hvalue
    cases hschema
    exact ⟨x, by rw [Registry.found?, hvalue, Option.map_some, hrun], hsome, rfl⟩

/-- **The sheet of such a command** takes its record if what is found there can be stored. -/
theorem sheetTakes_of_canStore (h : r.CanStore url html) : t.SheetTakes := by
  intro _ record hyields
  obtain ⟨x, hfound, hsome, rfl⟩ := hyields.exists_found hargs hsource hregistry hpage
  exact takes_sheetSite (h x hfound hsome).2

end PageCommand

end Turn

/-! ## Histories -/

/-- The turns of a history, each with the workspace that the turns before it leave. -/
def turns (w : Workspace) : List (List String) → List Turn
  | [] => []
  | args :: rest => ⟨w, args⟩ :: turns (Turn.after ⟨w, args⟩) rest

theorem runAll_cons (w : Workspace) (args : List String) (rest : List (List String)) :
    runAll w (args :: rest) =
      ((run w args).1 :: (runAll (run w args).2 rest).1, (runAll (run w args).2 rest).2) := by
  simp only [runAll]

/-- **A history is known from its turns**: its commands and its outcomes are theirs. -/
theorem runAll_eq_turns (w : Workspace) (commands : List (List String)) :
    (turns w commands).map Turn.args = commands ∧
      (runAll w commands).1 = (turns w commands).map Turn.outcome := by
  induction commands generalizing w with
  | nil => exact ⟨rfl, rfl⟩
  | cons args rest ih =>
    obtain ⟨hargs, houtcomes⟩ := ih (Turn.after ⟨w, args⟩)
    rw [turns, List.map_cons, List.map_cons, hargs, ← houtcomes, runAll_cons]
    exact ⟨rfl, rfl⟩

/-- **What a history writes** if the sheets take its records: those of the turns that were exported,
one for each and in their order. -/
theorem runAll_writes {w : Workspace} {commands : List (List String)}
    (h : ∀ t ∈ turns w commands, t.SheetTakes) :
    ∃ records, List.Forall₂ Turn.Yields ((turns w commands).filter Turn.wasExported) records ∧
      (runAll w commands).2 = { w with sheets := w.sheets.appendAll records } := by
  induction commands generalizing w with
  | nil => exact ⟨[], .nil, rfl⟩
  | cons args rest ih =>
    rw [turns, List.forall_mem_cons] at h
    obtain ⟨records, hrecords, hwritten⟩ := ih h.2
    have hrest : (runAll w (args :: rest)).2 = (runAll (Turn.after ⟨w, args⟩) rest).2 := by
      rw [runAll_cons]
      rfl
    rw [turns, hrest, hwritten]
    rcases h.1.writes with ⟨hnot, hsame⟩ | ⟨record, hexported, hyields, happended⟩
    · refine ⟨records, ?_, by rw [hsame]⟩
      rw [List.filter_cons_of_neg (by simp [hnot])]
      exact hrecords
    · refine ⟨record :: records, ?_, ?_⟩
      · rw [List.filter_cons_of_pos hexported]
        exact .cons hyields hrecords
      · rw [happended]
        rfl

/-- **Commands that fail leave no trace**, in any history of commands in any workspace, unless they
break off in writing. A turn whose exit code is not that of success prints nothing on the standard
output and leaves the workspace as it was; or it was asked to write a record that its sheet does not
take, and leaves what could be written of it. If each sheet takes its record, no turn that fails
leaves a trace, and the sheets at the end are those at the beginning with one record appended for
each turn that ended with success and was asked for it, in their order: the flat record that its
schema read from its page. -/
theorem failed_runs_leave_no_trace (w : Workspace) (commands : List (List String)) :
    ((turns w commands).map Turn.args = commands ∧
      (runAll w commands).1 = (turns w commands).map Turn.outcome) ∧
    (∀ t ∈ turns w commands, t.outcome.exitCode ≠ 0 →
      (t.outcome.stdout = "" ∧ t.after = t.before) ∨
        ∃ record, t.asksForSheet = true ∧ t.Yields record ∧ ¬Takes record.1 record.2 ∧
          t.after = { t.before with sheets := (t.before.sheets.write record.1 record.2).1 }) ∧
    ((∀ t ∈ turns w commands, t.SheetTakes) →
      (∀ t ∈ turns w commands, t.outcome.exitCode ≠ 0 →
        t.outcome.stdout = "" ∧ t.after = t.before) ∧
      ∃ records, List.Forall₂ Turn.Yields ((turns w commands).filter Turn.wasExported) records ∧
        (runAll w commands).2 = { w with sheets := w.sheets.appendAll records }) := by
  refine ⟨runAll_eq_turns w commands, fun _ _ hcode => Turn.traceless_or_of_exitCode hcode,
    fun hsheets => ⟨fun t ht hcode => ?_, runAll_writes hsheets⟩⟩
  rcases Turn.traceless_or_of_exitCode hcode with htraceless | ⟨record, hasks, hyields, hnot, -⟩
  · exact htraceless
  · exact absurd (hsheets t ht hasks record hyields) hnot

/-- A command without an address is refused. The export behind it, of a page of a built-in site,
finds the sheets as they were. -/
theorem failed_runs_leave_no_trace_county_export :
    let w := Workspace.ofPage .empty "<p></p>"
    let commands := [["page.html"],
      exportCommand "page.html" "https://www.miamidade.gov/" .json true]
    (∀ t ∈ turns w commands, t.SheetTakes) ∧
      ((Turn.mk w ["page.html"]).outcome.exitCode ≠ 0 ∧ (Turn.mk w ["page.html"]).after = w) ∧
      ∃ records, (runAll w commands).2 = { w with sheets := w.sheets.appendAll records } := by
  intro w commands
  have hcode : (Turn.mk w ["page.html"]).outcome.exitCode ≠ 0 := by decide
  have hsame : (Turn.mk w ["page.html"]).after = w := rfl
  have hfurther : w.furtherSites = .ok .empty := Workspace.furtherSites_ofPage_empty "<p></p>"
  have hregistry : w.registry = .ok (.overlaid .empty) := Workspace.registry_of_furtherSites hfurther
  have hpage := (Workspace.holds_ofPage .empty "<p></p>" (by decide)).pageText_eq (by decide)
  have hname : "page.html".toList.head? ≠ some '-' := by decide
  have hargs := readArguments_exportCommand hname "https://www.miamidade.gov/" .json true
  have hshow : (Registry.overlaid .empty).CanShow "https://www.miamidade.gov/" "<p></p>" := by
    decide +kernel
  have hsheets : ∀ t ∈ turns w commands, t.SheetTakes := by
    simp only [commands, turns, hsame, List.forall_mem_cons, List.not_mem_nil, false_imp_iff,
      implies_true, and_true]
    refine ⟨fun hasks => absurd hasks (by decide), ?_⟩
    exact Turn.sheetTakes_of_canStore hargs rfl hregistry hpage (hshow.canStore (by decide +kernel))
  obtain ⟨-, -, hhistory⟩ := failed_runs_leave_no_trace w commands
  obtain ⟨hsilent, records, -, hwritten⟩ := hhistory hsheets
  exact ⟨hsheets, ⟨hcode, (hsilent _ List.mem_cons_self hcode).2⟩, records, hwritten⟩

/-! ## A run that breaks off -/

/-- The text of a schema whose constant has half of a surrogate pair for its name. -/
def halfNamed : String :=
  "\x7b\"s\":\x7b\"constants\":\x7b\"a\":\x7b\"\\ud800\":\"x\"\x7d\x7d\x7d\x7d"

/-- The turn that prints the value of this constant and writes its sheet. -/
def halfNamedTurn : Turn where
  before := { files := .ofList [("page.html", "<p></p>".toUTF8), ("s.json", halfNamed.toUTF8)] }
  args := ["page.html", "--schema=s.json", "--format=tsv", "--no-headers", "--export"]

/-- **A run may fail and leave a trace**: it prints the value, but the name is not written, and the
sheet stays empty. -/
theorem failed_run_leaves_sheet :
    halfNamedTurn ∈ turns halfNamedTurn.before [halfNamedTurn.args] ∧
      halfNamedTurn.outcome.exitCode = 1 ∧ halfNamedTurn.outcome.stdout = "x\n" ∧
      halfNamedTurn.before.sheets.entries = [] ∧
      halfNamedTurn.after.sheets.entries = [("s.csv", "")] := by
  have hargs : readArguments halfNamedTurn.args =
      .ok ⟨"page.html", .schema "s.json", .tsv, false, true, ""⟩ := rfl
  have hpage : halfNamedTurn.before.text "page.html" = .ok "<p></p>" :=
    Workspace.text_of_writable rfl (by decide +kernel) (by decide)
  have hschema : halfNamedTurn.before.text "s.json" = .ok halfNamed :=
    Workspace.text_of_writable rfl (by decide +kernel) (by decide +kernel)
  refine ⟨List.mem_cons_self, ?_⟩
  simp only [Turn.outcome, Turn.after, run, hargs, scrape, findSchema, Workspace.schema, hschema,
    Workspace.pageText, hpage]
  decide +kernel

end ParcelRecords.CommandLine
