import ParcelRecords.Proofs.Extraction.Run

/-!
# Runs of joined schemas

A run of two schemas one after the other is the run of each, the second written over the first: no
section reads what an earlier one left. A single section leaves its constants with what it reads
written over them, so that each value in a record is that of the last section that writes its key.

## Main definitions

* `Schema.followedBy`: one schema with another behind it
* `RawEntry.written?`: the value that an entry writes at a key

## Main results

* `Schema.run_data_followedBy`, `Schema.run_failures_followedBy`: a run of joined schemas
* `Schema.run_data_single`: a run of one section
* `Schema.get?_run_data`: the last section that writes a key decides its value
* `Schema.run_composes`: all of these together
-/

namespace ParcelRecords

open Markup (Document)

/-! ## One section -/

/-- The value that an entry writes at a key: what it reads there, or else its constant. -/
def RawEntry.written? (raw : RawEntry) (d : Document) (key : String) : Option Json :=
  match raw.read with
  | .accepted e =>
    ((OrderedMap.ofList (e.output d)).get? key).or ((e.constants.getD .empty).get? key)
  | .refused _ => none

theorem RawEntry.lookup_reverse_writes (raw : RawEntry) (d : Document) (key : String) :
    (raw.writes d).reverse.lookup key = raw.written? d key := by
  unfold writes written?
  cases raw.read with
  | refused problems => rfl
  | accepted e =>
    have hconstants : e.constantEntries.reverse.lookup key =
        (e.constants.getD .empty).get? key :=
      OrderedMap.lookup_reverse_of_nodup (e.constants.getD .empty).nodup_keys key
    dsimp only
    rw [List.reverse_append, List.lookup_append, hconstants, OrderedMap.get?_ofList]

/-- An entry whose method gives nothing reads nothing. -/
theorem Entry.output_eq_nil {e : Entry} {d : Document}
    (h : e.method = .allData ∧ (e.grid d).allData? = none ∨
      e.method = .appraiserPage ∧ Appraiser.record? d = none) : e.output d = [] := by
  unfold output run
  rcases h with ⟨hmethod, hnone⟩ | ⟨hmethod, hnone⟩
  · simp [hmethod, hnone]
  · simp [hmethod, hnone]

namespace Schema

/-- **A run of one section** leaves its constants with what it reads written over them. -/
theorem run_data_single {raw : RawEntry} {e : Entry} (hread : raw.read = .accepted e)
    (name : String) (d : Document) :
    ((single name raw).run d).data = (e.constants.getD .empty).merge (.ofList (e.output d)) := by
  have hwrites : (single name raw).writes d = e.constantEntries ++ e.output d := by
    simp [writes, single, upsert, RawEntry.writes, hread]
  rw [run_data, hwrites, OrderedMap.ofList_append, Entry.constantEntries,
    OrderedMap.ofList_entries]

/-! ## Joined schemas -/

/-- The sections of a schema with those of another behind them. -/
def followedBy (A B : Schema) : Schema :=
  OrderedMap.merge A B

section Joined

variable {A B : Schema} (hdisjoint : A.keys.Disjoint B.keys)
include hdisjoint

theorem entries_followedBy : (A.followedBy B).entries = A.entries ++ B.entries := by
  refine OrderedMap.entries_insertAll_of_disjoint A B.nodup_keys fun s hs hmem => ?_
  exact hdisjoint hmem (List.mem_map_of_mem hs)

/-- **The record of joined schemas** is that of the second written over that of the first. -/
theorem run_data_followedBy (d : Document) :
    ((A.followedBy B).run d).data = (A.run d).data.merge (B.run d).data := by
  rw [run_data, run_data, run_data, writes, entries_followedBy hdisjoint, List.flatMap_append,
    OrderedMap.ofList_append]
  rfl

/-- **The failures of joined schemas** are those of the first, then those of the second. -/
theorem run_failures_followedBy (d : Document) :
    ((A.followedBy B).run d).failures.entries =
      (A.run d).failures.entries ++ (B.run d).failures.entries := by
  rw [run_failures, run_failures, run_failures, failing, entries_followedBy hdisjoint,
    List.flatMap_append]
  rfl

end Joined

/-- **The last section that writes a key** decides its value. -/
theorem get?_run_data (schema : Schema) (d : Document) (key : String) :
    (schema.run d).data.get? key =
      schema.entries.reverse.findSome? fun s => s.2.written? d key := by
  rw [run_data, OrderedMap.get?_ofList, writes, OrderedMap.lookup_reverse_flatMap]
  simp only [RawEntry.lookup_reverse_writes]

/-- **Runs compose**. The record of two schemas with different sections, one behind the other, is
the record of the first updated by that of the second: old columns stay where they are, new ones
follow, and the second goes before the first; the failures stand one behind the other. One valid
section leaves its constants updated by what its method reads, and its constants alone if that is
nothing. In every schema the last section that writes a key decides its value. -/
theorem run_composes (d : Document) :
    (∀ A B : Schema, A.keys.Disjoint B.keys →
      (A.followedBy B).entries = A.entries ++ B.entries ∧
      ((A.followedBy B).run d).data = (A.run d).data.merge (B.run d).data ∧
      ((A.followedBy B).run d).data.keys =
        (A.run d).data.keys ++ (B.run d).data.keys.filter (· ∉ (A.run d).data.keys) ∧
      (∀ key, ((A.followedBy B).run d).data.get? key =
        ((B.run d).data.get? key).or ((A.run d).data.get? key)) ∧
      ((A.followedBy B).run d).failures.entries =
        (A.run d).failures.entries ++ (B.run d).failures.entries) ∧
    (∀ name raw e, raw.read = .accepted e →
      ((single name raw).run d).data = (e.constants.getD .empty).merge (.ofList (e.output d)) ∧
      (e.method = .allData ∧ (e.grid d).allData? = none ∨
          e.method = .appraiserPage ∧ Appraiser.record? d = none →
        ((single name raw).run d).data = e.constants.getD .empty)) ∧
    ∀ (schema : Schema) (key : String),
      (schema.run d).data.get? key =
        schema.entries.reverse.findSome? fun s => s.2.written? d key := by
  refine ⟨fun A B hdisjoint => ?_, fun name raw e hread => ⟨run_data_single hread name d, ?_⟩,
    fun schema key => get?_run_data schema d key⟩
  -- columns and readings of the joined run are those of a merge
  · have hdata := run_data_followedBy hdisjoint d
    refine ⟨entries_followedBy hdisjoint, hdata, ?_, fun key => ?_,
      run_failures_followedBy hdisjoint d⟩
    · rw [hdata, OrderedMap.keys_merge]
    · rw [hdata, OrderedMap.get?_merge]
  · intro hnothing
    rw [run_data_single hread name d, Entry.output_eq_nil hnothing]
    rfl

/-- A failing section behind another still replaces a value by its constant, in the old column. -/
theorem run_composes_with_failure :
    let A := single "summary"
      (.ready { constants := some (.ofList [("source", .str "roll"), ("county", .str "Duval")]) })
    let B := single "cell"
      (.ready { method := .cell, constants := some (.ofList [("source", .str "manual")]) })
    A.keys.Disjoint B.keys ∧
      ((A.followedBy B).run ⟨[]⟩).data.entries =
        [("source", .str "manual"), ("county", .str "Duval")] ∧
      ((A.followedBy B).run ⟨[]⟩).failures.entries = [("cell", .needsRowAndColumn)] := by
  intro A B
  have hdisjoint : A.keys.Disjoint B.keys := by
    intro name hA hB
    rw [show A.keys = ["summary"] from rfl, List.mem_singleton] at hA
    rw [show B.keys = ["cell"] from rfl, List.mem_singleton, hA] at hB
    exact absurd hB (by decide)
  obtain ⟨-, hdata, -, -, hfailures⟩ := (run_composes ⟨[]⟩).1 A B hdisjoint
  refine ⟨hdisjoint, ?_, ?_⟩
  · rw [hdata]
    rfl
  · rw [hfailures]
    rfl

end Schema

end ParcelRecords
