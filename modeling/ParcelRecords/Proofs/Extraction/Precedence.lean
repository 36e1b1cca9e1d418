import ParcelRecords.Proofs.Extraction.Composition
import ParcelRecords.Proofs.Record.Flatten

/-!
# Precedence in the flat record

A later section writes over an earlier one column by column, and a column that is written again
keeps its old place. The flat record is read by place: two columns that give one joined name meet
there, and the one behind decides. So a section that comes last need not have the last word. What it
gives to a name is there unless a column behind its own, one that an earlier section wrote first,
gives the name another value.

## Main results

* `Schema.flat_followedBy_single`: when the last section decides a name of the flat record
-/

namespace ParcelRecords.Schema

open Markup (Document)
open Record (given? lastGiven?)

section LastSection

variable (data : Record) {own : Record} {column : String × Json} {name : String} {v : Json}

/-- What is written last stands in the merged record, and all that can replace what it gives to a
name stands behind it. -/
theorem flatten_merge_of_mem (hmem : column ∈ own.entries) (hgiven : given? name column = some v) :
    ∃ before after, (data.merge own).entries = before ++ column :: after ∧
      (Record.flatten "" (data.merge own)).get? name = some ((lastGiven? name after).getD v) := by
  -- what is written last is read at its key, so the merged record has the column as it is
  have hmerged : column ∈ (data.merge own).entries := by
    rw [← OrderedMap.get?_eq_some_iff, OrderedMap.get?_merge, OrderedMap.get?_eq_some_iff.2 hmem,
      Option.some_or]
  obtain ⟨before, after, hsplit⟩ := List.append_of_mem hmerged
  refine ⟨before, after, hsplit, ?_⟩
  rw [Record.get?_flatten, hsplit, Record.lastGiven?_append_cons hgiven]

/-- A column that was not there is written behind all others, in the order of the record that
brings it; what decided a name there decides it still. -/
theorem flatten_merge_of_new {front back : List (String × Json)}
    (hsplit : own.entries = front ++ column :: back) (hgiven : given? name column = some v)
    (hback : lastGiven? name back = none) (hnew : column.1 ∉ data.keys) :
    (Record.flatten "" (data.merge own)).get? name = some v := by
  have hrest : lastGiven? name (back.filter (·.1 ∉ data.keys)) = none := by
    rw [Record.lastGiven?_eq_none_iff] at hback ⊢
    intro f hf
    exact hback f (List.mem_of_mem_filter hf)
  -- the new columns keep their order, so what stood behind the column stands behind it still
  have hcolumn : (column :: back).filter (·.1 ∉ data.keys) =
      column :: back.filter (·.1 ∉ data.keys) :=
    List.filter_cons_of_pos (by simpa using hnew)
  rw [Record.get?_flatten, OrderedMap.entries_merge, hsplit, List.filter_append, hcolumn,
    ← List.append_assoc, Record.lastGiven?_append_cons hgiven, hrest]
  rfl

end LastSection

/-- **When the last section decides a name of the flat record**. A name that it gives alone is
always there. Its value is that of the last section exactly if no column behind the deciding one
gives the name another value; this is so whenever no earlier section wrote the deciding column. -/
theorem flat_followedBy_single {A : Schema} {section_ : String} (hnew : section_ ∉ A.keys)
    (raw : RawEntry) (d : Document) {name : String} {v : Json}
    (hv : ((single section_ raw).run d).flat.get? name = some v) :
    name ∈ ((A.followedBy (single section_ raw)).run d).flat.keys ∧
    ∃ front column back,
      ((single section_ raw).run d).data.entries = front ++ column :: back ∧
      given? name column = some v ∧ lastGiven? name back = none ∧
      (∃ before after,
        ((A.followedBy (single section_ raw)).run d).data.entries = before ++ column :: after ∧
        (((A.followedBy (single section_ raw)).run d).flat.get? name = some v ↔
          ∀ w, lastGiven? name after = some w → w = v)) ∧
      (column.1 ∉ (A.run d).data.keys →
        ((A.followedBy (single section_ raw)).run d).flat.get? name = some v) := by
  have hdisjoint : A.keys.Disjoint (single section_ raw).keys := by
    intro s hA hs
    rw [show (single section_ raw).keys = [section_] from rfl, List.mem_singleton] at hs
    exact hnew (hs ▸ hA)
  simp only [Extraction.flat, run_data_followedBy hdisjoint d] at hv ⊢
  rw [Record.get?_flatten] at hv
  -- the deciding column of the last section keeps its value in the merged record, not its place
  obtain ⟨front, column, back, hsplit, hgiven, hback⟩ := Record.exists_deciding hv
  have hmem : column ∈ ((single section_ raw).run d).data.entries := by
    rw [hsplit]
    exact List.mem_append_right front List.mem_cons_self
  obtain ⟨before, after, hmerged, hflat⟩ := flatten_merge_of_mem (A.run d).data hmem hgiven
  refine ⟨?_, front, column, back, hsplit, hgiven, hback, ⟨before, after, hmerged, ?_⟩,
    flatten_merge_of_new (A.run d).data hsplit hgiven hback⟩
  · exact OrderedMap.mem_keys_iff.2 ⟨_, hflat⟩
  · rw [hflat]
    cases lastGiven? name after <;> simp

/-- A nested value comes before the column that the last section brings, which decides. -/
theorem flat_followedBy_single_new :
    let A := single "site" (.json (.obj [("constants", .obj [("owner",
      .obj [("name", .str "Doe")])])]))
    let raw := RawEntry.json (.obj [("constants", .obj [("owner_name", .str "Roe")])])
    "label" ∉ A.keys ∧
      (A.run ⟨[]⟩).flat.get? "owner_name" = some (.str "Doe") ∧
      ((single "label" raw).run ⟨[]⟩).flat.get? "owner_name" = some (.str "Roe") ∧
      ((A.followedBy (single "label" raw)).run ⟨[]⟩).flat.get? "owner_name" =
        some (.str "Roe") := by
  intro A raw
  have hnew : "label" ∉ A.keys := by decide
  have hv : ((single "label" raw).run ⟨[]⟩).flat.get? "owner_name" = some (.str "Roe") := rfl
  obtain ⟨-, front, column, back, hsplit, -, -, -, hkept⟩ :=
    flat_followedBy_single hnew raw ⟨[]⟩ hv
  refine ⟨hnew, rfl, hv, hkept ?_⟩
  -- the last section has one column, and the earlier one has another
  have hmem : column ∈ ((single "label" raw).run ⟨[]⟩).data.entries := by
    rw [hsplit]
    exact List.mem_append_right front List.mem_cons_self
  have hcolumn : column = ("owner_name", .str "Roe") := List.mem_singleton.1 hmem
  rw [hcolumn]
  decide

/-- **The last section can be overruled**: its column stands where an earlier section wrote it, and
a nested value behind it has the same joined name. -/
theorem flat_followedBy_single_overruled :
    let A := single "site" (.json (.obj [("constants", .obj [("owner_name", .str "unknown"),
      ("owner", .obj [("name", .str "Doe")])])]))
    let raw := RawEntry.json (.obj [("constants", .obj [("owner_name", .str "Roe")])])
    "label" ∉ A.keys ∧
      ((single "label" raw).run ⟨[]⟩).flat.get? "owner_name" = some (.str "Roe") ∧
      ((A.followedBy (single "label" raw)).run ⟨[]⟩).flat.get? "owner_name" =
        some (.str "Doe") := by
  intro A raw
  exact ⟨by decide, rfl, rfl⟩

end ParcelRecords.Schema
