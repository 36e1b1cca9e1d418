import ParcelRecords.Proofs.Text.Ends
import ParcelRecords.Proofs.Text.Pieces
import ParcelRecords.Workspace.Basic

/-!
# Names of sheet files

The name of a site is any text, and a file is named after it. Every run of characters that a file
name may not hold becomes one underscore, and underscores at the ends are dropped, so that what is
left is a name of its own: named after it, a file has the same name. As it has no slash in it and
does not lead back up, the file lies in the folder of sheets whatever the site is called.

## Main definitions

* `SheetFolder.IsStem`: a text that stands for itself in a file name
* `SheetFolder.isKept`: a character that is never replaced and never dropped
* `SheetFolder.left`: what is left of the name of a site
* `Path.IsEntryOf`: a path leads from a directory to an entry of it

## Main results

* `SheetFolder.isStem_stem`, `SheetFolder.stem_eq_self`: stems are the texts that stand for
  themselves
* `SheetFolder.filter_stem`: the characters of the site that its stem keeps
* `Path.isEntryOf_join`: a path to an entry
* `SheetFolder.file_names_safe_and_stable`: all of them together
-/

namespace ParcelRecords

/-! ## Paths to entries -/

namespace Path

/-- The path leads to an entry of the directory: it has one part more, which is its name and does
not lead back up. -/
def IsEntryOf (path directory name : String) : Prop :=
  parts path.toList = parts directory.toList ++ [name.toList] ∧ name ≠ ".."

/-- A name without slashes is one part. -/
theorem parts_of_slash_free {name : List Char} (hslash : '/' ∉ name) (hne : name ≠ [])
    (hhere : name ≠ ['.']) : parts name = [name] := by
  rw [parts, Text.splitAt_of_not_mem hslash]
  simp [hne, hhere]

/-- **A path to an entry**: a name without slashes that moves leads one part down. -/
theorem isEntryOf_join {name : String} (directory : String) (hslash : '/' ∉ name.toList)
    (hne : name ≠ "") (hhere : name ≠ ".") (hup : name ≠ "..") :
    IsEntryOf (directory ++ "/" ++ name) directory name := by
  refine ⟨?_, hup⟩
  have hchars : (directory ++ "/" ++ name).toList = directory.toList ++ '/' :: name.toList := by
    simp
  have hname : parts name.toList = [name.toList] :=
    parts_of_slash_free hslash (fun h => hne (String.toList_inj.1 h))
      (fun h => hhere (String.toList_inj.1 h))
  rw [hchars, parts, Text.splitAt_append, List.filter_append, ← parts, ← parts, hname]

end Path

namespace SheetFolder

variable {c : Char} {cs : List Char}

/-! ## Stems -/

/-- A text that stands for itself in a file name: it is not empty, all its characters may stand
there, and it has no underscore at its ends. -/
structure IsStem (name : String) : Prop where
  ne_empty : name ≠ ""
  safe : ∀ c ∈ name.toList, isSafe c = true
  first : name.toList.head? ≠ some '_'
  last : name.toList.getLast? ≠ some '_'

theorem isStem_iff {name : String} : IsStem name ↔ name ≠ "" ∧ name.toList.all isSafe = true ∧
    name.toList.head? ≠ some '_' ∧ name.toList.getLast? ≠ some '_' := by
  rw [List.all_eq_true]
  exact ⟨fun h => ⟨h.ne_empty, h.safe, h.first, h.last⟩, fun h => ⟨h.1, h.2.1, h.2.2.1, h.2.2.2⟩⟩

instance (name : String) : Decidable (IsStem name) :=
  decidable_of_iff _ isStem_iff.symm

/-- A character that may stand in a file name and is no underscore. -/
def isKept (c : Char) : Bool :=
  isSafe c && c ≠ '_'

/-! ## Replaced characters -/

theorem isSafe_underscore : isSafe '_' = true := by decide

theorem replaceUnsafe_cons_of_safe (hc : isSafe c = true) (cs : List Char) :
    replaceUnsafe (c :: cs) = c :: replaceUnsafe cs := by
  simp [replaceUnsafe, hc]

/-- A character that is replaced is the last of its run or goes without a trace. -/
theorem replaceUnsafe_cons_of_not_safe (hc : isSafe c = false) (cs : List Char) :
    replaceUnsafe (c :: cs) = '_' :: replaceUnsafe cs ∨
      replaceUnsafe (c :: cs) = replaceUnsafe cs := by
  cases cs with
  | nil => exact .inl (by simp [replaceUnsafe, hc])
  | cons d cs =>
    cases hd : isSafe d with
    | true => exact .inl (by simp [replaceUnsafe, hc, hd])
    | false =>
      exact .inr (by rw [replaceUnsafe.eq_def]; simp [hc, hd])

/-- **Only safe characters are left** once the others are replaced. -/
theorem isSafe_of_mem_replaceUnsafe (h : c ∈ replaceUnsafe cs) : isSafe c = true := by
  induction cs with
  | nil => cases h
  | cons d cs ih =>
    cases hd : isSafe d with
    | true =>
      rw [replaceUnsafe_cons_of_safe hd, List.mem_cons] at h
      rcases h with rfl | h
      · exact hd
      · exact ih h
    | false =>
      rcases replaceUnsafe_cons_of_not_safe hd cs with heq | heq
      · rw [heq, List.mem_cons] at h
        rcases h with rfl | h
        · exact isSafe_underscore
        · exact ih h
      · exact ih (heq ▸ h)

theorem replaceUnsafe_eq_self (h : ∀ c ∈ cs, isSafe c = true) : replaceUnsafe cs = cs := by
  induction cs with
  | nil => rfl
  | cons c cs ih =>
    obtain ⟨hc, hcs⟩ := List.forall_mem_cons.1 h
    rw [replaceUnsafe_cons_of_safe hc, ih hcs]

theorem filter_replaceUnsafe (cs : List Char) :
    (replaceUnsafe cs).filter isKept = cs.filter isKept := by
  have hunderscore : isKept '_' = false := by decide
  induction cs with
  | nil => rfl
  | cons c cs ih =>
    cases hc : isSafe c with
    | true => rw [replaceUnsafe_cons_of_safe hc, List.filter_cons, List.filter_cons, ih]
    | false =>
      have hdropped : isKept c = false := by simp [isKept, hc]
      rw [List.filter_cons_of_neg (by simp [hdropped]), ← ih]
      rcases replaceUnsafe_cons_of_not_safe hc cs with heq | heq
      · rw [heq, List.filter_cons_of_neg (by simp [hunderscore])]
      · rw [heq]

/-! ## Stems of sites -/

/-- What is left of the name of a site. -/
def left (site : String) : List Char :=
  Text.strip (· = '_') (replaceUnsafe site.toList)

/-- The stem of a site is what is left of its name, if anything is. -/
theorem toList_stem (site : String) :
    (stem site).toList = if left site = [] then "export".toList else left site := by
  have hleft : stripUnderscores (replaceUnsafe site.toList) = left site := rfl
  rw [stem, hleft]
  cases left site with
  | nil => rfl
  | cons c cs => rw [if_neg (List.cons_ne_nil c cs), String.toList_ofList]

theorem isSafe_of_mem_left {site : String} (h : c ∈ left site) : isSafe c = true :=
  isSafe_of_mem_replaceUnsafe ((Text.strip_isInfix _ _).subset h)

theorem head?_left (site : String) : (left site).head? ≠ some '_' := by
  intro hfirst
  exact absurd (Text.eq_false_of_mem_head?_strip hfirst) (by decide)

theorem getLast?_left (site : String) : (left site).getLast? ≠ some '_' := by
  intro hlast
  exact absurd (Text.eq_false_of_mem_getLast?_strip hlast) (by decide)

theorem filter_left (site : String) : (left site).filter isKept = site.toList.filter isKept := by
  have hdropped : ∀ c, decide (c = '_') = true → isKept c = false := by simp [isKept]
  rw [left, Text.filter_strip hdropped, filter_replaceUnsafe]

/-- What is left begins with a character that is kept. -/
theorem left_eq_nil_iff {site : String} : left site = [] ↔ site.toList.filter isKept = [] := by
  rw [← filter_left]
  constructor
  · intro hnil
    rw [hnil, List.filter_nil]
  · intro hnone
    cases hleft : left site with
    | nil => rfl
    | cons c cs =>
      have hfirst := head?_left site
      have hmem : c ∈ left site := hleft ▸ List.mem_cons_self
      have hkept : isKept c = true := by
        rw [hleft] at hfirst
        simpa [isKept, isSafe_of_mem_left hmem] using hfirst
      exact absurd hkept (List.filter_eq_nil_iff.1 hnone c hmem)

theorem isStem_export : IsStem "export" := by decide +kernel

/-- **A stem stands for itself**, whatever the site is called. -/
theorem isStem_stem (site : String) : IsStem (stem site) := by
  have hstem := toList_stem site
  by_cases hnil : left site = []
  · rw [if_pos hnil] at hstem
    exact String.toList_inj.1 hstem ▸ isStem_export
  · rw [if_neg hnil] at hstem
    refine ⟨fun hempty => ?_, fun c hc => ?_, ?_, ?_⟩
    · rw [hempty] at hstem
      exact hnil hstem.symm
    · exact isSafe_of_mem_left (hstem ▸ hc)
    · exact hstem ▸ head?_left site
    · exact hstem ▸ getLast?_left site

/-- Nothing is replaced in a text that stands for itself, and nothing is dropped. -/
theorem left_eq_self {name : String} (h : IsStem name) : left name = name.toList := by
  rw [left, replaceUnsafe_eq_self h.safe]
  apply Text.strip_eq_self
  · rintro c hc
    exact decide_eq_false fun heq => h.first (heq ▸ hc)
  · rintro c hc
    exact decide_eq_false fun heq => h.last (heq ▸ hc)

/-- **A text that stands for itself** is its own stem. -/
theorem stem_eq_self {name : String} (h : IsStem name) : stem name = name := by
  have hne : name.toList ≠ [] := fun hnil => h.ne_empty (String.toList_inj.1 hnil)
  rw [← String.toList_inj, toList_stem, left_eq_self h, if_neg hne]

/-- **What a stem keeps** of the name of a site: every character that may stand in a file name, the
underscores apart, in order. If there is none, the stem is that of a site without a name. -/
theorem filter_stem (site : String) :
    (stem site).toList.filter isKept =
      if site.toList.filter isKept = [] then "export".toList else site.toList.filter isKept := by
  rw [toList_stem]
  by_cases hnil : left site = []
  · rw [if_pos hnil, if_pos (left_eq_nil_iff.1 hnil)]
    decide
  · rw [if_neg hnil, if_neg (mt left_eq_nil_iff.2 hnil), filter_left]

/-! ## File names -/

theorem toList_fileName (site : String) :
    (fileName site).toList = (stem site).toList ++ ".csv".toList :=
  String.toList_append

/-- **A file named after a site** is an entry of the directory that it is looked for in. -/
theorem isEntryOf_fileName (directory site : String) :
    Path.IsEntryOf (directory ++ "/" ++ fileName site) directory (fileName site) := by
  have hslash : '/' ∉ (fileName site).toList := by
    rw [toList_fileName, List.mem_append, not_or]
    exact ⟨fun h => absurd ((isStem_stem site).safe _ h) (by decide), by decide⟩
  -- a file name is longer than the names of this directory and of the one above
  have hlong : ".csv".toList.length ≤ (fileName site).toList.length := by
    rw [toList_fileName, List.length_append]
    exact Nat.le_add_left _ _
  have hne (short : String) (hshort : short.toList.length < ".csv".toList.length) :
      fileName site ≠ short := by
    intro heq
    rw [heq] at hlong
    omega
  exact Path.isEntryOf_join directory hslash (hne "" (by decide)) (hne "." (by decide))
    (hne ".." (by decide))

theorem fileName_stem (site : String) : fileName (stem site) = fileName site := by
  rw [fileName, fileName, stem_eq_self (isStem_stem site)]

theorem fileName_inj {name name' : String} (h : IsStem name) (h' : IsStem name') :
    fileName name = fileName name' ↔ name = name' := by
  rw [fileName, fileName, stem_eq_self h, stem_eq_self h', String.append_left_inj]

/-- **File names are safe and stable**. Whatever a site is called, its file is an entry of the
folder of sheets, and of any directory that it is looked for in. The name of the file is a stem,
which is not empty, has only letters, digits, points, underscores and hyphens in it and no
underscore at its ends, followed by the suffix; the stem keeps the characters of the site that may
stand there, underscores apart. The file of the stem is the same one. Every text of this form is
its own stem, so that two of them never share a file. -/
theorem file_names_safe_and_stable :
    (∀ site,
      Path.IsEntryOf (Workspace.sheetPath (fileName site)) Workspace.sheetFolderName
        (fileName site) ∧
      (∀ directory,
        Path.IsEntryOf (directory ++ "/" ++ fileName site) directory (fileName site)) ∧
      fileName site = stem site ++ ".csv" ∧ IsStem (stem site) ∧
      (stem site).toList.filter isKept =
        (if site.toList.filter isKept = [] then "export".toList
          else site.toList.filter isKept) ∧
      fileName (stem site) = fileName site) ∧
    (∀ name, IsStem name → stem name = name ∧ fileName name = name ++ ".csv") ∧
    ∀ name name', IsStem name → IsStem name' →
      (fileName name = fileName name' ↔ name = name') := by
  refine ⟨fun site => ?_, fun name h => ?_, fun name name' h h' => fileName_inj h h'⟩
  · exact ⟨isEntryOf_fileName Workspace.sheetFolderName site,
      fun directory => isEntryOf_fileName directory site, rfl, isStem_stem site, filter_stem site,
      fileName_stem site⟩
  · exact ⟨stem_eq_self h, by rw [fileName, stem_eq_self h]⟩

/-- Sites called like the directory above, like nothing and like a path have files in the folder, and
two stems that differ in one sign have two files. -/
theorem file_names_safe_and_stable_odd_sites :
    (fileName ".." = "...csv" ∧ Path.parts "exports/...csv".toList =
      ["exports".toList, "...csv".toList]) ∧
    (fileName "" = "export.csv" ∧ stem "export" = "export") ∧
    fileName "/etc/my sites" = "etc_my_sites.csv" ∧
    IsStem "a.b" ∧ IsStem "a-b" ∧ fileName "a.b" = "a.b.csv" ∧ fileName "a.b" ≠ fileName "a-b" := by
  obtain ⟨hsite, hstem, hapart⟩ := file_names_safe_and_stable
  have hup : fileName ".." = "...csv" := by decide +kernel
  have hpoint : IsStem "a.b" := by decide +kernel
  have hhyphen : IsStem "a-b" := by decide +kernel
  refine ⟨⟨hup, ?_⟩, ⟨by decide +kernel, (hstem "export" isStem_export).1⟩, by decide +kernel,
    hpoint, hhyphen, (hstem "a.b" hpoint).2, ?_⟩
  · have hentry := (hsite "..").1.1
    rwa [hup] at hentry
  · intro hsame
    exact absurd ((hapart "a.b" "a-b" hpoint hhyphen).1 hsame) (by decide)

end SheetFolder

end ParcelRecords
