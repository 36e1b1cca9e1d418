import ParcelRecords.Proofs.Json.Writable
import ParcelRecords.Proofs.Site.Records
import ParcelRecords.Workspace.Basic

/-!
# Pages and sites of a workspace

A page without carriage returns is read from its file as it was stored. The schemas of the registry
are built in or were read from the sites file; they are regular values, and objects with finite
numbers if those of the sites file are.

## Main definitions

* `Workspace.Holds`: a page is stored in a file
* `Workspace.ofPage`: the workspace with a sites file and a page

## Main results

* `Workspace.registry_of_furtherSites`, `Workspace.areSchemas_overlaid`,
  `Workspace.isRegular_overlaid`: the registry, if the sites file can be read
* `Workspace.Holds.pageText_eq`: the text of a stored page
-/

namespace ParcelRecords

namespace Workspace

variable {w : Workspace} {further : OrderedMap Json}

/-- The further sites were read from a file, if there are any. -/
theorem isRegular_of_furtherSites (h : w.furtherSites = .ok further) :
    ∀ s ∈ further.entries, s.2.IsRegular := by
  unfold furtherSites at h
  split at h
  · unfold schema at h
    obtain ⟨text, -, h⟩ := exists_of_bind_eq_ok h
    split at h
    · cases h
    · cases h
    · rename_i value hread
      split at h
      · rename_i fields hfields
        cases h
        exact Json.hereditary_isRegular.fields (Json.isRegular_of_read hread) hfields
      · cases h
  · cases h
    simp

theorem registry_of_furtherSites (h : w.furtherSites = .ok further) :
    w.registry = .ok (.overlaid further) := by
  rw [registry, h]
  rfl

/-- The schemas of the registry are objects with finite numbers if those of the sites file are. -/
theorem areSchemas_overlaid (h : Site.AreSchemas further) :
    Site.AreSchemas (Registry.overlaid further).sites :=
  Registry.forall_overlaid (P := fun v => v.kind = .obj ∧ v.isFinite = true)
    Site.areSchemas_builtIn h

/-- **The schemas of the registry** are regular values if the sites file can be read. -/
theorem isRegular_overlaid (h : w.furtherSites = .ok further) :
    ∀ s ∈ (Registry.overlaid further).sites.entries, s.2.IsRegular :=
  Registry.forall_overlaid Site.isRegular_builtIn (isRegular_of_furtherSites h)

/-! ## Pages -/

/-- A page is stored in a file of the workspace, as a text of genuine characters. -/
structure Holds (w : Workspace) (page html : String) : Prop where
  stored : ∃ content : String, w.files.get? (Path.normalize page) = some content.toUTF8 ∧
    Text.ofCharacters content = html
  notDirectory : w.isDirectory (Path.normalize page) = false

/-- Line breaks without carriage returns are plain. -/
theorem plainBreaks_eq_self {cs : List Char} (h : '\r' ∉ cs) : plainBreaks cs = cs := by
  induction cs with
  | nil => rfl
  | cons c rest ih =>
    rw [List.mem_cons, not_or] at h
    rw [plainBreaks.eq_3 _ _ fun _ hc _ => h.1 hc.symm, if_neg (Ne.symm h.1), ih h.2]

theorem fromUTF8?_toUTF8 (s : String) : String.fromUTF8? s.toUTF8 = some s :=
  dif_pos s.isValidUTF8

/-- A file of text is read as the text of its characters. -/
theorem text_of_stored {path content : String}
    (hstored : w.files.get? path = some content.toUTF8) (hfile : w.isDirectory path = false) :
    w.text path = .ok (Text.ofCharacters content) := by
  simp only [text, hfile, Bool.false_eq_true, if_false, bytes?, hstored, fromUTF8?_toUTF8]

theorem text_of_writable {path content : String}
    (hstored : w.files.get? path = some content.toUTF8) (hfile : w.isDirectory path = false)
    (hcontent : Text.isWritable content = true) : w.text path = .ok content := by
  rw [text_of_stored hstored hfile, Text.ofCharacters_eq_self hcontent]

/-- **A stored page** is read as it was stored. -/
theorem Holds.pageText_eq {page html : String} (h : w.Holds page html)
    (hbreaks : '\r' ∉ html.toList) : w.pageText (Path.normalize page) = .ok html := by
  obtain ⟨content, hstored, hcontent⟩ := h.stored
  rw [pageText, text_of_stored hstored h.notDirectory, hcontent, Except.map,
    plainBreaks_eq_self hbreaks, String.ofList_toList]

/-! ## Workspaces of one page -/

/-- The workspace with a sites file and a page. -/
def ofPage (sites : OrderedMap Json) (html : String) : Workspace where
  files := .ofList [(sitesFile, ((Json.obj sites.entries).toIndented ++ "\n").toUTF8),
    ("page.html", html.toUTF8)]

section OfPage

variable (sites : OrderedMap Json) (html : String)

theorem isDirectory_ofPage {path : String} (h : path ∈ [sitesFile, "page.html"]) :
    (ofPage sites html).isDirectory path = false := by
  have hkeys : (ofPage sites html).files.keys = [sitesFile, "page.html"] := rfl
  have hsheets : (ofPage sites html).sheets = .empty := rfl
  rw [isDirectory, hkeys, hsheets]
  simp only [List.mem_cons, List.not_mem_nil, or_false] at h
  rcases h with rfl | rfl
  · decide +kernel
  · decide +kernel

theorem holds_ofPage (h : Text.isWritable html = true) :
    (ofPage sites html).Holds "page.html" html := by
  have hplain : Path.normalize "page.html" = "page.html" := by decide +kernel
  constructor
  · rw [hplain]
    exact ⟨html, rfl, Text.ofCharacters_eq_self h⟩
  · rw [hplain]
    exact isDirectory_ofPage sites html (by decide)

theorem furtherSites_ofPage (h : (Json.obj sites.entries).IsRegular)
    (hwritable : (Json.obj sites.entries).isWritable = true) :
    (ofPage sites html).furtherSites = .ok sites := by
  have hcontent : Text.isWritable ((Json.obj sites.entries).toIndented ++ "\n") = true := by
    rw [Text.isWritable_append, Json.isWritable_toIndented hwritable]
    decide
  have hstored : (ofPage sites html).files.get? sitesFile =
      some ((Json.obj sites.entries).toIndented ++ "\n").toUTF8 := rfl
  have htext := text_of_writable hstored (isDirectory_ofPage sites html (by decide)) hcontent
  rw [furtherSites, hstored, Option.isSome_some, if_pos rfl, schema, htext, ok_bind,
    Json.read_toIndented h]
  simp only [Json.fields?, OrderedMap.ofList_entries]

/-- A sites file without sites. -/
theorem furtherSites_ofPage_empty : (ofPage .empty html).furtherSites = .ok .empty :=
  furtherSites_ofPage .empty html (.obj List.nodup_nil (by simp)) rfl

end OfPage

end Workspace

end ParcelRecords
