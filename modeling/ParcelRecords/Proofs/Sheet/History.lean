import Mathlib.Data.List.Induction
import ParcelRecords.Proofs.Delimited.RoundTrip
import ParcelRecords.Proofs.OrderedMap.Merge
import ParcelRecords.Sheet.Folder

/-!
# Histories of the sheet folder

A folder that was empty at first is known from the calls made since: a file is there if a call went
to it, and its text is that of the rows of these calls, one call behind the other. So the text of a
file is read as the rows of its calls and nothing else.

## Main definitions

* `SheetFolder.afterCalls`: the folder after some calls
* `SheetFolder.callsTo`: the calls that went to a file
* `SheetFolder.GrowsAt`: one file of a folder grows, and the others stay as they are

## Main results

* `SheetFolder.get?_append`, `SheetFolder.growsAt_append`: one call
* `SheetFolder.get?_afterCalls`: the files after a history
* `SheetFolder.history_readable`: what a history leaves can be read back
-/

namespace ParcelRecords.SheetFolder

open Delimited (Dialect RowBreak decode encode)

/-- The folder after some calls on it, each with a site and its record. -/
def appendAll (folder : SheetFolder) (calls : List (String × Record)) : SheetFolder :=
  calls.foldl (fun folder c => folder.append c.1 c.2) folder

/-- The folder after some calls, each with a site and its record, on an empty one. -/
def afterCalls (calls : List (String × Record)) : SheetFolder :=
  calls.foldl (fun folder c => folder.append c.1 c.2) .empty

/-- The calls that went to a file, in order. -/
def callsTo (file : String) (calls : List (String × Record)) : List (String × Record) :=
  calls.filter fun c => fileName c.1 = file

/-! ## One call -/

/-- **One call** adds its rows to the file of its site and touches no other. -/
theorem get?_append (folder : SheetFolder) (site : String) (flat : Record) (file : String) :
    (folder.append site flat).get? file =
      if file = fileName site then some ((folder.get? file).getD "" ++ appended flat)
      else folder.get? file := by
  rw [append, OrderedMap.get?_insert]
  by_cases hfile : file = fileName site
  · rw [if_pos hfile, if_pos hfile, hfile]
  · rw [if_neg hfile, if_neg hfile]

/-- A file of the folder grows by some text, or is created with it; the others stay as they are. -/
def GrowsAt (before after : SheetFolder) (file added : String) : Prop :=
  ∀ f, after.get? f =
    if f = file then some ((before.get? f).getD "" ++ added) else before.get? f

variable {before after : SheetFolder} {file file' added added' : String}

theorem growsAt_append (folder : SheetFolder) (site : String) (flat : Record) :
    folder.GrowsAt (folder.append site flat) (fileName site) (appended flat) := by
  intro f
  exact get?_append folder site flat f

/-- A folder that grows at all shows at which file. -/
theorem GrowsAt.file_eq (h : before.GrowsAt after file added)
    (h' : before.GrowsAt after file' added') (hadded : added ≠ "") : file = file' := by
  by_contra hne
  have hgrown := h file
  have hsame := h' file
  rw [if_pos rfl] at hgrown
  rw [if_neg hne, hgrown] at hsame
  -- the file would be as long after growing as it was before
  have htext : (before.get? file).getD "" ++ added = (before.get? file).getD "" :=
    congrArg (Option.getD · "") hsame
  exact hadded (String.append_eq_left_iff.1 htext)

/-- A record adds to its file even if it is empty: rows end with line breaks. -/
theorem appended_ne_empty (flat : Record) : appended flat ≠ "" := by
  intro h
  have htext := congrArg String.toList h
  simp [appended, Delimited.encode, Delimited.encodeRows, Sheet.rows,
    Delimited.Dialect.commas] at htext

theorem afterCalls_concat (calls : List (String × Record)) (c : String × Record) :
    afterCalls (calls ++ [c]) = (afterCalls calls).append c.1 c.2 :=
  List.foldl_concat ..

theorem callsTo_concat (file : String) (calls : List (String × Record)) (c : String × Record) :
    callsTo file (calls ++ [c]) =
      callsTo file calls ++ if file = fileName c.1 then [c] else [] := by
  rw [callsTo, List.filter_append, ← callsTo]
  by_cases hfile : file = fileName c.1
  · simp [hfile]
  · simp [hfile, Ne.symm hfile]

theorem callsTo_eq_nil_iff {file : String} {calls : List (String × Record)} :
    callsTo file calls = [] ↔ ∀ c ∈ calls, fileName c.1 ≠ file := by
  simp [callsTo]

/-! ## Histories -/

/-- **A file after a history** holds the rows of the calls that went to it; without any it is not
there. -/
theorem get?_afterCalls (calls : List (String × Record)) (file : String) :
    (afterCalls calls).get? file =
      if (callsTo file calls).isEmpty then none
      else some (encode .commas ((callsTo file calls).flatMap fun c => Sheet.rows c.2)) := by
  induction calls using List.reverseRecOn with
  | nil => rfl
  | append_singleton calls c ih =>
    -- a file that is not there yet is read as empty, which is the text of no rows
    have hold : ((afterCalls calls).get? file).getD "" =
        encode .commas ((callsTo file calls).flatMap fun c => Sheet.rows c.2) := by
      rw [ih]
      cases callsTo file calls <;> rfl
    rw [afterCalls_concat, get?_append, callsTo_concat]
    -- the call adds its rows behind those of the calls before it, or goes to another file
    by_cases hfile : file = fileName c.1
    · rw [if_pos hfile, if_pos hfile, hold, appended, ← Delimited.encode_append,
        List.flatMap_append]
      simp
    · rw [if_neg hfile, if_neg hfile, List.append_nil, ih]

theorem has_afterCalls_iff {calls : List (String × Record)} {file : String} :
    (afterCalls calls).has file = true ↔ ∃ c ∈ calls, fileName c.1 = file := by
  have hnone : callsTo file calls = [] ↔ ¬∃ c ∈ calls, fileName c.1 = file := by
    rw [callsTo_eq_nil_iff]
    simp
  rw [has, get?_afterCalls]
  by_cases hcalls : callsTo file calls = []
  · simp [hcalls, hnone.1 hcalls]
  · simp [hcalls, not_not.1 (mt hnone.2 hcalls)]

/-- **A history can be read back**. The folder has the files to which calls went and no others. A
reader finds in each the rows of its calls in their order, whatever the cells hold. A further call
leaves all other files as they are and the old text of its own in front, and it creates its file
exactly if no call before it went there. -/
theorem history_readable (calls : List (String × Record)) :
    (∀ file, file ∈ (afterCalls calls).keys ↔ ∃ c ∈ calls, fileName c.1 = file) ∧
    (∀ file content, (afterCalls calls).get? file = some content →
      ∀ b : RowBreak, b.joinsPair = true →
        decode ',' b content = (callsTo file calls).flatMap fun c => Sheet.rows c.2) ∧
    ∀ c : String × Record,
      (∀ file, file ≠ fileName c.1 →
        (afterCalls (calls ++ [c])).get? file = (afterCalls calls).get? file) ∧
      (∃ added, (afterCalls (calls ++ [c])).get? (fileName c.1) =
        some (((afterCalls calls).get? (fileName c.1)).getD "" ++ added)) ∧
      ((!(afterCalls calls).has (fileName c.1)) = true ↔
        ∀ c' ∈ calls, fileName c'.1 ≠ fileName c.1) := by
  refine ⟨fun file => ?_, fun file content hcontent b hb => ?_,
    fun c => ⟨fun file hfile => ?_, ⟨appended c.2, ?_⟩, ?_⟩⟩
  · rw [OrderedMap.mem_keys_iff, ← Option.isSome_iff_exists]
    exact has_afterCalls_iff
  · rw [get?_afterCalls] at hcontent
    split at hcontent
    · cases hcontent
    · cases hcontent
      exact Delimited.decode_encode (Dialect.commas_isReadBy hb) _
  · rw [afterCalls_concat, get?_append, if_neg hfile]
  · rw [afterCalls_concat, get?_append, if_pos rfl]
  · rw [Bool.not_eq_true', Bool.eq_false_iff, ne_eq, has_afterCalls_iff]
    simp

end ParcelRecords.SheetFolder
