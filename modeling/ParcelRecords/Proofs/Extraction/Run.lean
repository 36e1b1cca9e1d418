import ParcelRecords.Extraction.Basic
import ParcelRecords.Proofs.OrderedMap.Merge

/-!
# What a run writes

A section of a schema writes some entries to the record and at most one failure, and both depend on
its own entry and the page alone. A run is therefore known from what its sections write: the record
takes all their entries in order, and the failures stand in the order of the sections.

## Main definitions

* `Schema.single`: the schema of one section
* `Entry.failure?`, `RawEntry.failure?`: why an entry fails on a page
* `Entry.output`, `RawEntry.writes`: what an entry reads, and what it writes to the record

## Main results

* `Extraction.step_eq`: one section
* `Schema.run_data`, `Schema.run_failures`: the record and the failures of a run
-/

namespace ParcelRecords

open Markup (Document)

/-! ## Sections -/

/-- The schema of one section. -/
def Schema.single (name : String) (raw : RawEntry) : Schema :=
  OrderedMap.empty.insert name raw

/-- Why an entry fails on a page. -/
def Entry.failure? (e : Entry) (d : Document) : Option Failure :=
  match e.run d with
  | .ok _ => none
  | .error f => some f

/-- What an entry reads from a page; nothing if it fails. -/
def Entry.output (e : Entry) (d : Document) : List (String × Json) :=
  match e.run d with
  | .ok output => output
  | .error _ => []

/-- Why a raw entry fails on a page. -/
def RawEntry.failure? (raw : RawEntry) (d : Document) : Option Failure :=
  match raw.read with
  | .accepted e => e.failure? d
  | .refused problems => some (.invalid problems.length)

/-- What a raw entry writes to the record of a page: its constants, and what it reads over them. -/
def RawEntry.writes (raw : RawEntry) (d : Document) : List (String × Json) :=
  match raw.read with
  | .accepted e => e.constantEntries ++ e.output d
  | .refused _ => []

/-- **One section** writes its entries and its failure, whatever was written before. -/
theorem Extraction.step_eq (d : Document) (x : Extraction) (name : String) (raw : RawEntry) :
    x.step d name raw =
      ⟨x.data.insertAll (raw.writes d),
        x.failures.insertAll ((raw.failure? d).toList.map fun f => (name, f))⟩ := by
  unfold Extraction.step RawEntry.writes RawEntry.failure?
  cases raw.read with
  | refused problems => rfl
  | accepted e =>
    simp only [Entry.failure?, Entry.output]
    cases e.run d with
    | ok output => simp [OrderedMap.insertAll_append]
    | error f => simp [OrderedMap.insertAll_cons]

/-! ## Runs -/

namespace Schema

/-- What the sections write to the record, in order. -/
def writes (schema : Schema) (d : Document) : List (String × Json) :=
  schema.entries.flatMap fun s => s.2.writes d

/-- The sections that fail, in order. -/
def failing (schema : Schema) (d : Document) : List (String × Failure) :=
  schema.entries.flatMap fun s => (s.2.failure? d).toList.map fun f => (s.1, f)

/-- A run of sections adds what they write to what is there. -/
theorem foldl_step_eq (d : Document) (sections : List (String × RawEntry)) (x : Extraction) :
    sections.foldl (fun x s => x.step d s.1 s.2) x =
      ⟨x.data.insertAll (sections.flatMap fun s => s.2.writes d),
        x.failures.insertAll
          (sections.flatMap fun s => (s.2.failure? d).toList.map fun f => (s.1, f))⟩ := by
  -- generalized over what is there, since every section leaves more to the rest
  induction sections generalizing x with
  | nil => rfl
  | cons s rest ih =>
    rw [List.foldl_cons, ih, Extraction.step_eq, List.flatMap_cons, List.flatMap_cons,
      OrderedMap.insertAll_append, OrderedMap.insertAll_append]

/-- **The record of a run** takes what the sections write, in their order. -/
theorem run_data (schema : Schema) (d : Document) :
    (schema.run d).data = .ofList (schema.writes d) := by
  rw [run, foldl_step_eq]
  rfl

/-- The sections that fail are those whose entries have a failure. -/
theorem failing_eq (schema : Schema) (d : Document) :
    schema.failing d = (schema.filterMap (·.failure? d)).entries := by
  have hsections (sections : List (String × RawEntry)) :
      (sections.flatMap fun s => (s.2.failure? d).toList.map fun f => (s.1, f)) =
        sections.filterMap fun s => (s.2.failure? d).map fun f => (s.1, f) := by
    induction sections with
    | nil => rfl
    | cons s rest ih => cases hf : s.2.failure? d <;> simp [hf, ih]
  exact hsections schema.entries

/-- **The failures of a run** stand in the order of the sections, one for each that fails. -/
theorem run_failures (schema : Schema) (d : Document) :
    (schema.run d).failures.entries = schema.failing d := by
  have hnodup : ((schema.failing d).map Prod.fst).Nodup := by
    rw [failing_eq]
    exact (schema.filterMap (·.failure? d)).nodup_keys
  rw [run, foldl_step_eq]
  exact OrderedMap.entries_ofList_of_nodup hnodup

theorem run_failures_eq (schema : Schema) (d : Document) :
    (schema.run d).failures = schema.filterMap (·.failure? d) :=
  OrderedMap.ext ((run_failures schema d).trans (failing_eq schema d))

/-- The failure of a section is that of its entry. -/
theorem get?_run_failures (schema : Schema) (d : Document) (name : String) :
    (schema.run d).failures.get? name = (schema.get? name).bind (·.failure? d) := by
  rw [run_failures_eq, OrderedMap.get?_filterMap]

end Schema

end ParcelRecords
