import ParcelRecords.Proofs.Sheet.FileNames
import ParcelRecords.Proofs.Sheet.Writable
import ParcelRecords.Proofs.Site.Records
import ParcelRecords.Service.Response
import ParcelRecords.Workspace.Basic

/-!
# Answers that can be sent

An answer reaches the client if bytes stand for its body. That of a scrape shows the name of the
site, the record and the names of the sections that failed, with messages that are ASCII; that of an
export shows the name of the site, and the path of the sheet, which is ASCII whatever the site is
called.

## Main results

* `SheetFolder.isWritable_fileName`, `Failure.isWritable_message`: texts that can always be written
* `Service.Response.isWritable_body_scraped_iff`,
  `Service.Response.isWritable_body_exported_iff`: the answers that can be sent
-/

namespace ParcelRecords

/-! ## Answers -/

/-- What may stand in a file name is ASCII. -/
theorem SheetFolder.isHalf_of_isSafe {c : Char} (h : isSafe c = true) : Text.isHalf c = false := by
  have hle : c.toNat ≤ 122 := by
    simp only [isSafe, Bool.or_eq_true, Bool.and_eq_true, decide_eq_true_eq] at h
    rcases h with ((((h | h) | h) | rfl) | rfl) | rfl
    · exact Nat.le_trans (m := 90) h.2 (by decide)
    · exact h.2
    · exact Nat.le_trans (m := 57) h.2 (by decide)
    · decide
    · decide
    · decide
  rw [Text.isHalf_eq_false_iff]
  unfold Text.firstHalf
  omega

/-- **The name of a file** can be written, whatever the site is called. -/
theorem SheetFolder.isWritable_fileName (site : String) :
    Text.isWritable (fileName site) = true := by
  have hstem : Text.isWritable (stem site) = true :=
    Text.isWritable_iff.2 fun c hc => isHalf_of_isSafe ((isStem_stem site).safe c hc)
  rw [fileName, Text.isWritable_append, hstem]
  decide

theorem Failure.isWritable_message (f : Failure) : Text.isWritable f.message = true := by
  cases f with
  | invalid n =>
    have htext : (invalid n).message =
        "invalid config: " ++ toString n ++ " validation error(s)" := rfl
    rw [htext, Text.isWritable_append, Text.isWritable_append, Text.isWritable_toString]
    decide +kernel
  | _ => decide +kernel

namespace Service.Response

theorem isWritable_failureTexts_iff {failures : OrderedMap Failure} :
    (failureTexts failures).isWritable = true ↔
      ∀ name ∈ failures.keys, Text.isWritable name = true := by
  rw [failureTexts, Json.isWritable, Json.fieldsWritable_iff, OrderedMap.keys]
  simp only [List.forall_mem_map, Json.isWritable, Failure.isWritable_message, and_true]

theorem isWritable_body_scraped_iff {site : String} {withHeaders : Bool} {x : Extraction} :
    (scraped site x.flat (Sheet.toTsv withHeaders x.flat) x.failures).body.isWritable = true ↔
      Text.isWritable site = true ∧ x.IsWritable := by
  have hkeys : ["site", "data", "tsv", "errors"].all Text.isWritable = true := by decide
  simp only [List.all_cons, List.all_nil, Bool.and_eq_true] at hkeys
  obtain ⟨hsite, hdata, htsv, herrors, -⟩ := hkeys
  simp only [body, Json.isWritable, Json.fieldsWritable, hsite, hdata, htsv, herrors,
    Bool.and_eq_true, true_and, and_true]
  rw [← Json.isWritable, ← Json.isWritable, isWritable_failureTexts_iff]
  constructor
  · rintro ⟨hname, hfields, -, hfailures⟩
    exact ⟨hname, hfields, hfailures⟩
  · -- the text to paste asks for nothing more, since it shows the fields
    rintro ⟨hname, hfields, hfailures⟩
    exact ⟨hname, hfields, Sheet.isWritable_toTsv hfields withHeaders, hfailures⟩

theorem isWritable_body_exported_iff {site name : String} {created : Bool} :
    (exported site (Workspace.sheetPath (SheetFolder.fileName name)) created).body.isWritable =
      true ↔ Text.isWritable site = true := by
  have hpath : Text.isWritable (Workspace.sheetPath (SheetFolder.fileName name)) = true := by
    rw [Workspace.sheetPath, Text.isWritable_append, SheetFolder.isWritable_fileName]
    decide
  have hmessage : Text.isWritable (exportMessage site created) = Text.isWritable site := by
    cases created <;> simp only [exportMessage, Text.isWritable_append] <;> rfl
  have hkeys : ["success", "message", "path"].all Text.isWritable = true := by decide
  simp only [List.all_cons, List.all_nil, Bool.and_eq_true] at hkeys
  obtain ⟨hsuccess, hnews, hplace, -⟩ := hkeys
  simp only [body, Json.isWritable, Json.fieldsWritable, hsuccess, hnews, hplace, hmessage, hpath,
    Bool.and_true, Bool.true_and]

theorem sent_of_isWritable {r : Response} (h : r.body.isWritable = true) : r.sent = r :=
  if_pos h

theorem sent_of_not_isWritable {r : Response} (h : ¬r.body.isWritable = true) :
    r.sent = internalError :=
  if_neg h

end Service.Response

end ParcelRecords
