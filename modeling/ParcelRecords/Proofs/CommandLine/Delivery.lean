import ParcelRecords.CommandLine.Run
import ParcelRecords.Proofs.Sheet.Writable

/-!
# Delivering a record

A record that was read is printed, and then written to its sheet if that is asked for. A text that
cannot be written is not printed at all, and nothing else happens. But a sheet that does not take
the record is found out only after printing, and what was written of the record by then stays.

## Main results

* `CommandLine.isWritable_render`: what is printed of a record whose fields can be written
* `CommandLine.takes_sheetSite`: the sheet of a command takes what the sheet of the site takes
* `CommandLine.deliver_of_takes`, `CommandLine.deliver_of_not_takes`: a record that can be printed
* `CommandLine.deliver_cases`: what becomes of a record
-/

namespace ParcelRecords.CommandLine

open SheetFolder (Takes)

/-- **What is printed** can be written if the fields of the record can. -/
theorem isWritable_render (s : Settings) {flat : Record}
    (h : (Json.obj flat.entries).isWritable = true) : Text.isWritable (s.render flat) = true := by
  unfold Settings.render
  cases s.format with
  | json =>
    rw [Text.isWritable_append, Json.isWritable_toIndented h]
    decide
  | tsv =>
    rw [Text.isWritable_append, Sheet.isWritable_toTsv h]
    decide

/-- The sheet of a site that is not known has a short name. -/
theorem takes_sheetSite {site : String} {flat : Record} (h : Takes site flat) :
    Takes (sheetSite site) flat := by
  unfold sheetSite
  split
  · exact ⟨by decide +kernel, h.2⟩
  · exact h

section Deliver

variable {w : Workspace} {s : Settings} {x : Scrape}

theorem deliver_of_not_printed (hprint : Text.isWritable (s.render x.flat) = false) :
    deliver w s x = (.brokenOff "" (.unwritable (s.render x.flat)), w) := by
  simp only [deliver, hprint, Bool.not_false, if_true]

variable (hprint : Text.isWritable (s.render x.flat) = true)

include hprint

/-- **A record that can be printed**, and that its sheet takes, is printed and written. -/
theorem deliver_of_takes (hsheet : s.exports = true → Takes (sheetSite x.site) x.flat) :
    deliver w s x = (.printed (s.render x.flat),
      if s.exports then { w with sheets := w.sheets.append (sheetSite x.site) x.flat } else w) := by
  simp only [deliver, hprint, Bool.not_true, Bool.false_eq_true, if_false]
  cases hexports : s.exports with
  | false => rfl
  | true =>
    rw [SheetFolder.write_of_takes w.sheets (hsheet hexports)]
    rfl

/-- **A record that its sheet does not take** is printed, and then writing breaks off. -/
theorem deliver_of_not_takes (hexports : s.exports = true)
    (hsheet : ¬Takes (sheetSite x.site) x.flat) :
    ∃ e, deliver w s x = (.brokenOff (s.render x.flat) e,
      { w with sheets := (w.sheets.write (sheetSite x.site) x.flat).1 }) := by
  have herror := mt (SheetFolder.write_error_eq_none_iff w.sheets).1 hsheet
  obtain ⟨e, he⟩ := Option.ne_none_iff_exists'.1 herror
  refine ⟨e, ?_⟩
  simp only [deliver, hprint, hexports, Bool.not_true, Bool.false_eq_true, if_false, if_true]
  rw [← Prod.eta (w.sheets.write (sheetSite x.site) x.flat), he]

end Deliver

/-- **What becomes of a record**. It is not printed, and nothing is written; or it is printed, and
its sheet takes it if it is asked to; or it is printed, and writing breaks off. -/
theorem deliver_cases (w : Workspace) (s : Settings) (x : Scrape) :
    (∃ e, deliver w s x = (.brokenOff "" e, w)) ∨
      deliver w s x = (.printed (s.render x.flat),
        if s.exports then { w with sheets := w.sheets.append (sheetSite x.site) x.flat }
        else w) ∨
      (s.exports = true ∧ ¬Takes (sheetSite x.site) x.flat ∧
        ∃ e, deliver w s x = (.brokenOff (s.render x.flat) e,
          { w with sheets := (w.sheets.write (sheetSite x.site) x.flat).1 })) := by
  by_cases hprint : Text.isWritable (s.render x.flat) = true
  · by_cases hsheet : s.exports = true → Takes (sheetSite x.site) x.flat
    · exact .inr (.inl (deliver_of_takes hprint hsheet))
    · obtain ⟨hexports, hnot⟩ := Classical.not_imp.1 hsheet
      exact .inr (.inr ⟨hexports, hnot, deliver_of_not_takes hprint hexports hnot⟩)
  · exact .inl ⟨_, deliver_of_not_printed (Bool.not_eq_true _ ▸ hprint)⟩

end ParcelRecords.CommandLine
