import ParcelRecords.Proofs.Entry.Spelling
import ParcelRecords.Proofs.Extraction.Run

/-!
# Runs of respelled schemas

A section takes part in a run through what its entry is read as, and through the number of problems
if it is refused. Respelled entries agree in both, and so does an entry that was checked before with
the raw one it was checked from. Schemas whose sections are put for each other in these ways run
alike on every page.

## Main definitions

* `RawEntry.Interchangeable`: entries that can be put for each other
* `Schema.Interchangeable`: schemas with such entries, section by section

## Main results

* `Extraction.step_congr`: a section whose entry is read alike does the same
* `Schema.run_congr`: a run of sections whose entries are read alike is the same
* `Schema.spelling_is_immaterial`: the spelling of an entry changes neither its settings nor the
  number of its problems, nor what a schema reads from a page
-/

namespace ParcelRecords

open Markup (Document)

/-! ## Sections -/

/-- Entries that can be **put for each other**: the same entry, one with its respelling, or one with
the settings that it was checked to have. -/
inductive RawEntry.Interchangeable : RawEntry → RawEntry → Prop where
  | refl (raw : RawEntry) : Interchangeable raw raw
  | respelled {v w : Json} (h : Entry.Respelled Entry.layout v w) :
    Interchangeable (.json v) (.json w)
  | checked {v : Json} {e : Entry} (h : Entry.read v = .accepted e) :
    Interchangeable (.json v) (.ready e)

/-- Entries that can be put for each other are read alike. -/
theorem RawEntry.Interchangeable.alike_read {a b : RawEntry} (h : a.Interchangeable b) :
    a.read.Alike b.read := by
  cases h with
  | refl => exact .refl _
  | respelled h => exact Entry.alike_read h
  | @checked v e h =>
    have hraw : (RawEntry.json v).read = (RawEntry.ready e).read := h
    rw [hraw]
    exact .refl _

/-- **A section** does the same if its entry is read alike. -/
theorem Extraction.step_congr {a b : RawEntry} (h : a.read.Alike b.read) (d : Document)
    (x : Extraction) (name : String) : x.step d name b = x.step d name a := by
  unfold Extraction.step
  cases ha : a.read with
  | accepted e => rw [h.eq_accepted ha]
  | refused ps =>
    -- of the problems only their number is noted
    obtain ⟨qs, hb, hfaults⟩ := h.exists_refused ha
    have hlength : qs.length = ps.length := by simpa using congrArg List.length hfaults
    rw [hb]
    simp only [hlength]

/-! ## Schemas -/

namespace Schema

/-- Schemas with the same sections in the same order, whose entries can be put for each other. -/
def Interchangeable (A B : Schema) : Prop :=
  List.Forall₂ (fun s t => s.1 = t.1 ∧ s.2.Interchangeable t.2) A.entries B.entries

theorem foldl_step_congr {as bs : List (String × RawEntry)}
    (h : List.Forall₂ (fun s t => s.1 = t.1 ∧ s.2.read.Alike t.2.read) as bs) (d : Document)
    (x : Extraction) :
    bs.foldl (fun x s => x.step d s.1 s.2) x = as.foldl (fun x s => x.step d s.1 s.2) x := by
  -- generalized over what the sections before have left
  induction h generalizing x with
  | nil => rfl
  | cons hst _ ih => rw [List.foldl_cons, List.foldl_cons, ih, ← hst.1, Extraction.step_congr hst.2]

/-- **A run** is the same if its entries are read alike, section by section. -/
theorem run_congr {A B : Schema}
    (h : List.Forall₂ (fun s t => s.1 = t.1 ∧ s.2.read.Alike t.2.read) A.entries B.entries)
    (d : Document) : B.run d = A.run d :=
  foldl_step_congr h d {}

/-- **The spelling of an entry is immaterial.** The keys of an entry with one spelling of each field
may be respelled in any way. With its keys in other spellings, with keys that mean nothing, and with
its names in other letters and blanks, an entry is accepted as before with the same settings, or
refused with as many problems. A schema of such entries, or of entries checked before, reads the
same from every page and fails in the same sections for the same reasons. -/
theorem spelling_is_immaterial :
    (∀ m, Entry.layout.OneSpelling m → ∀ σ : String → String,
      (∀ k, Entry.layout.SameField k (σ k)) →
        Entry.Respelled Entry.layout (.obj m.entries)
          (.obj (m.entries.map fun e => (σ e.1, e.2)))) ∧
    (∀ v w, Entry.Respelled Entry.layout v w →
      (Entry.read w).value? = (Entry.read v).value? ∧
        (Entry.read w).problems.length = (Entry.read v).problems.length) ∧
    ∀ A B : Schema, A.Interchangeable B → ∀ d, B.run d = A.run d := by
  refine ⟨?_, ?_, ?_⟩
  · intro m hm σ hσ
    exact Entry.respelled_rename hσ hm
  · intro v w h
    have halike := Entry.alike_read h
    exact ⟨halike.value?_eq, halike.length_problems⟩
  · intro A B h d
    apply run_congr
    exact h.imp fun _ _ hst => ⟨hst.1, hst.2.alike_read⟩

/-! A schema with two sections, and the same with one entry respelled and the other checked. -/

/-- A row filter with its one key in the given spelling. -/
def filterOf (key : String) : Json :=
  .obj [(key, .bool true)]

/-- The fields of an entry with its keys in the given spellings. -/
def areaFields (shapeKey filterKey : String) : List (String × Json) :=
  [(shapeKey, .str "matrix"), (filterKey, filterOf "caseSensitive")]

/-- The entry with its keys and the key of its filter in the second spelling, with its name in other
letters and behind a blank, and with a key that means nothing. -/
def areaEntryRespelled : Json :=
  .obj [("comment", .null), ("table_type", .str " Matrix"),
    ("ignore_rows", filterOf "case_sensitive")]

/-- The keys of the entry in the second spelling. -/
def inSecondSpelling (k : String) : String :=
  if k = "tableType" then "table_type" else if k = "ignoreRows" then "ignore_rows" else k

theorem sameField_inSecondSpelling (k : String) :
    Entry.layout.SameField k (inSecondSpelling k) := by
  unfold inSecondSpelling
  split
  · rename_i htype
    rw [htype]
    decide
  · split
    · rename_i hrows
      rw [hrows]
      decide
    · exact .inl rfl

theorem areaEntryRespelled_respelled : Entry.Respelled Entry.layout
    (.obj (areaFields "table_type" "ignore_rows")) areaEntryRespelled := by
  have hletters : Entry.SameName (.str "matrix") (.str "Matrix") := .letters (by decide)
  have hblanks : Entry.SameName (.str "Matrix") (.str " Matrix") := .blanks (by decide)
  have hkey : .plain .caseSensitive ∈ Entry.filterLayout.fields := by simp [Entry.filterLayout]
  have hfilter : Entry.Respelled Entry.filterLayout (filterOf "caseSensitive")
      (filterOf "case_sensitive") :=
    .single (Entry.edited_of_field hkey (by decide) (by decide) rfl [] [] (by decide) (by decide))
  have htype : .name .tableType ∈ Entry.layout.fields := by simp [Entry.layout]
  have hrows : .nested .ignoreRows Entry.filterLayout ∈ Entry.layout.fields := by
    simp [Entry.layout]
  -- the letters of the name, the blank before it, the filter, and last the new key
  refine .head (Entry.edited_of_field htype (.tail _ (.head _)) (.tail _ (.head _)) hletters [] _
    (by decide) (by decide)) ?_
  refine .head (Entry.edited_of_field htype (.tail _ (.head _)) (.tail _ (.head _)) hblanks [] _
    (by decide) (by decide)) ?_
  refine .head (Entry.edited_of_field hrows (.tail _ (.head _)) (.tail _ (.head _)) hfilter
    [("table_type", .str " Matrix")] [] (by decide) (by decide)) ?_
  exact .single ⟨_, _, Entry.fields?_obj (by decide), Entry.fields?_obj (by decide),
    .extra (by decide) (.refl _)⟩

/-- An entry whose settings are the default ones but for its method. -/
def ownerEntry : Json :=
  .obj [("function", .str "getformdata")]

theorem spelling_is_immaterial_two_sections :
    let entry := Json.obj (areaFields "tableType" "ignoreRows")
    Entry.layout.OneSpelling ⟨areaFields "tableType" "ignoreRows", by decide⟩ ∧
      Entry.Respelled Entry.layout entry areaEntryRespelled ∧
      (Entry.read areaEntryRespelled).value? = (Entry.read entry).value? ∧
      (Entry.read entry).value?.isSome ∧
      Entry.read ownerEntry = .accepted { method := .formData } ∧
      ∀ d, Schema.run ⟨[("area", .json areaEntryRespelled),
          ("owner", .ready { method := .formData })], by decide⟩ d =
        Schema.run ⟨[("area", .json entry), ("owner", .json ownerEntry)], by decide⟩ d := by
  intro entry
  have hspelling : Entry.layout.OneSpelling ⟨areaFields "tableType" "ignoreRows", by decide⟩ := by
    decide
  have hkeys : Entry.Respelled Entry.layout entry (.obj (areaFields "table_type" "ignore_rows")) :=
    spelling_is_immaterial.1 _ hspelling inSecondSpelling sameField_inSecondSpelling
  have hrespelled := hkeys.trans areaEntryRespelled_respelled
  have hread : Entry.read ownerEntry = .accepted { method := .formData } := rfl
  refine ⟨hspelling, hrespelled, (spelling_is_immaterial.2.1 _ _ hrespelled).1, rfl, hread, ?_⟩
  apply spelling_is_immaterial.2.2
  exact .cons ⟨rfl, .respelled hrespelled⟩ (.cons ⟨rfl, .checked hread⟩ .nil)

end Schema

end ParcelRecords
