import ParcelRecords.Proofs.CommandLine.Delivery
import ParcelRecords.Proofs.Site.Records

/-!
# Commands that name a page and its address

Such a command is read as it is meant, whatever the address is, and what it prints depends on what
is found under the address on the page.

## Main definitions

* `CommandLine.pageCommand`: the command for a page, its address and the form of the output
* `CommandLine.exportCommand`: the same command, which also asks for the record to be written

## Main results

* `CommandLine.readArguments_pageCommand`, `CommandLine.readArguments_exportCommand`: the settings
  of these commands
* `CommandLine.run_eq`: a command with a page and an address
-/

namespace ParcelRecords.CommandLine

/-! ## Words -/

/-- The command that reads a page under its address. -/
def pageCommand (page url : String) (format : Format) (withHeaders : Bool) : List String :=
  [page, "--url=" ++ url, "--format=" ++ format.name] ++
    if withHeaders then [] else ["--no-headers"]

/-- The command that reads a page under its address, and asks for the record to be written. -/
def exportCommand (page url : String) (format : Format) (withHeaders : Bool) : List String :=
  pageCommand page url format withHeaders ++ ["--export"]

theorem classify_page {page : String} (h : page.toList.head? ≠ some '-') :
    classify page = .ok (.plain page) := by
  unfold classify
  split
  · rename_i c rest heq
    exact absurd (by rw [heq]; rfl) h
  · rfl

/-- An option that is spelled out takes all behind the first equals sign for its value. -/
theorem classify_assignment {word value : String} (spelling : String) (o : Switch) {c : Char}
    {name : List Char} (hlong : spelling.toList = '-' :: '-' :: c :: name)
    (hsign : '=' ∉ spelling.toList)
    (hspelled : spellings.filter (fun s => s.1.toList = spelling.toList) = [(spelling, o)])
    (hword : word.toList = spelling.toList ++ '=' :: value.toList) :
    classify word = .ok (.option o (some value)) := by
  have hbefore : ∀ c ∈ spelling.toList, decide (c ≠ '=') = true := by
    intro c hc
    rw [decide_eq_true_eq]
    rintro rfl
    exact hsign hc
  have hsplit : splitAtEquals word.toList = (spelling.toList, some value.toList) := by
    unfold splitAtEquals
    rw [hword, List.dropWhile_append_of_pos hbefore, List.takeWhile_append_of_pos hbefore]
    simp
  have hcandidates : longCandidates word.toList = [(spelling, .option o (some value))] := by
    simp [longCandidates, hsplit, hspelled]
  have hhyphens : word.toList = '-' :: '-' :: c :: (name ++ '=' :: value.toList) := by
    rw [hword, hlong]
    rfl
  unfold classify
  rw [hhyphens] at hcandidates ⊢
  simp only [if_true, hcandidates]

theorem classifyAll_cons {word : String} {c : Word} (hword : word ≠ "--")
    (h : classify word = .ok c) (rest : List String) :
    classifyAll (word :: rest) = (classifyAll rest).map (c :: ·) := by
  rw [classifyAll, h]
  · rfl
  · exact hword

section PageCommand

variable {page : String} (h : page.toList.head? ≠ some '-') (url : String) (format : Format)
  (withHeaders : Bool)

include h

/-- The words of the command, with further words behind it. -/
theorem classifyAll_pageCommand {flags : List String} {words : List Word}
    (hflags : classifyAll flags = .ok words) :
    classifyAll (pageCommand page url format withHeaders ++ flags) =
      .ok ([.plain page, .option .url (some url), .option .format (some format.name)] ++
        (if withHeaders then [] else [.option .noHeaders none]) ++ words) := by
  -- none of the words is the one that ends the options, so each is classified by itself
  have hpage : page ≠ "--" := by
    rintro rfl
    exact h rfl
  have hurlText : ("--url=" ++ url).toList = "--url".toList ++ '=' :: url.toList := by
    rw [String.toList_append]
    rfl
  have hurl : "--url=" ++ url ≠ "--" := fun heq => by
    have htext := congrArg String.toList heq
    rw [hurlText] at htext
    cases htext
  have hformatText : ("--format=" ++ format.name).toList =
      "--format".toList ++ '=' :: format.name.toList := by
    rw [String.toList_append]
    rfl
  have hformat : "--format=" ++ format.name ≠ "--" := by
    cases format <;> decide
  have hlast : classifyAll ((if withHeaders then [] else ["--no-headers"]) ++ flags) =
      .ok ((if withHeaders then [] else [.option .noHeaders none]) ++ words) := by
    cases withHeaders with
    | true => exact hflags
    | false =>
      have hword : classify "--no-headers" = .ok (.option .noHeaders none) := rfl
      exact (classifyAll_cons (by decide) hword flags).trans (by rw [hflags]; rfl)
  rw [pageCommand, List.append_assoc, List.append_assoc, List.cons_append, List.cons_append,
    List.cons_append, List.nil_append, classifyAll_cons hpage (classify_page h),
    classifyAll_cons hurl
      (classify_assignment "--url" .url rfl (by decide) (by decide +kernel) hurlText),
    classifyAll_cons hformat
      (classify_assignment "--format" .format rfl (by decide) (by decide +kernel) hformatText),
    hlast]
  rfl

/-- **The command is read** as it was meant: the page, its address, the form of the output. -/
theorem readArguments_pageCommand :
    readArguments (pageCommand page url format withHeaders) =
      .ok ⟨Path.normalize page, .url url, format, withHeaders, false, ""⟩ := by
  have hnone : classifyAll [] = .ok [] := rfl
  have hwords := classifyAll_pageCommand h url format withHeaders hnone
  rw [List.append_nil, List.append_nil] at hwords
  unfold readArguments
  rw [hwords]
  cases format <;> cases withHeaders <;> rfl

theorem readArguments_exportCommand :
    readArguments (exportCommand page url format withHeaders) =
      .ok ⟨Path.normalize page, .url url, format, withHeaders, true, ""⟩ := by
  have hflag : classifyAll ["--export"] = .ok [.option .exportSheet none] := rfl
  unfold readArguments
  rw [exportCommand, classifyAll_pageCommand h url format withHeaders hflag]
  cases format <;> cases withHeaders <;> rfl

end PageCommand

/-! ## Outcomes -/

section Run

variable {w : Workspace} {r : Registry} {settings : Settings} {url html : String}
  (hregistry : w.registry = .ok r) (hsource : settings.source = .url url)
  (hlevel : checkLevel settings.logLevel = .ok ()) (hpage : w.pageText settings.page = .ok html)

include hregistry hsource hlevel hpage

theorem scrape_eq :
    scrape w settings = match r.found? url html with
      | none => .error (.unsupportedSite url)
      | some (.error e) => .error (.failed (.page e))
      | some (.ok x) =>
        if x.flat.isEmpty then .error .noData else .ok ⟨r.siteName url, x.flat⟩ := by
  simp only [scrape, hlevel, findSchema, hsource, hregistry, hpage, Registry.found?]
  cases r.schemaFor? url with
  | none => rfl
  | some value =>
    simp only [Except.mapError, ok_bind, Option.map_some]
    cases Extraction.ofPage value html <;> rfl

end Run

/-- **A command that names a page and its address**: what it prints, and the workspace that it
leaves. -/
theorem run_eq {args : List String} {settings : Settings}
    (hargs : readArguments args = .ok settings) {url : String}
    (hsource : settings.source = .url url) (hlevel : checkLevel settings.logLevel = .ok ())
    {w : Workspace} {html : String} (hpage : w.pageText settings.page = .ok html) {r : Registry}
    (hregistry : w.registry = .ok r) :
    run w args = match r.found? url html with
      | none => (.unsupportedSite url, w)
      | some (.error e) => (.failed (.page e), w)
      | some (.ok x) =>
        if x.flat.isEmpty then (.noData, w) else deliver w settings ⟨r.siteName url, x.flat⟩ := by
  simp only [run, hargs, scrape_eq hregistry hsource hlevel hpage]
  cases r.found? url html with
  | none => rfl
  | some found =>
    cases found with
    | error e => rfl
    | ok x =>
      by_cases hempty : x.flat.isEmpty = true
      · simp only [if_pos hempty]
      · simp only [if_neg hempty]

end ParcelRecords.CommandLine
