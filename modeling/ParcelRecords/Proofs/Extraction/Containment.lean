import ParcelRecords.Proofs.Extraction.Remarks
import ParcelRecords.Proofs.OrderedMap.Merge

/-!
# Failures stay where they are

A section that fails leaves the others alone. If its entry is refused it writes nothing; if its
entry lacks what the method needs it still writes its constants. The record of a schema is therefore
that of one without failures: refused entries are taken out of it, and entries that lack something
are cut down to their constants, a method that reads nothing put in place of theirs.

Which entries these are does not depend on the page, so that one schema without failures stands for
the given one on all pages.

## Main definitions

* `Entry.constantsAlone`: an entry cut down to its constants
* `RawEntry.contained?`, `Schema.contained`: what remains of an entry, and of a schema, without
  failures

## Main results

* `RawEntry.writes_contained?`, `RawEntry.failure?_contained?`: what remains of an entry writes what
  the entry writes, and does not fail
* `Schema.contained_congr`: what remains is the same for all pages
* `Schema.failures_contained`: the record and the failures of a run
-/

namespace ParcelRecords

open Markup (Document)

/-! ## Entries -/

/-- The constants of an entry under the default method, which reads nothing as no table is named. -/
def Entry.constantsAlone (e : Entry) : Entry :=
  { constants := e.constants }

/-- The constants alone are no failure, and nothing is read over them. -/
theorem Entry.run_constantsAlone (e : Entry) (d : Document) : e.constantsAlone.run d = .ok [] :=
  rfl

namespace RawEntry

/-- What remains of a raw entry without its failure on a page: nothing if it is refused, and its
constants if it lacks something. -/
def contained? (d : Document) (raw : RawEntry) : Option RawEntry :=
  match raw.read with
  | .refused _ => none
  | .accepted e => some (if (e.failure? d).isSome then .ready e.constantsAlone else raw)

/-- An entry is refused and nothing remains, or it runs and stays as it is, or it fails and its
constants remain. -/
theorem contained?_cases (raw : RawEntry) (d : Document) :
    (∃ problems, raw.read = .refused problems ∧ raw.contained? d = none) ∨
      (∃ e output, raw.read = .accepted e ∧ e.run d = .ok output ∧ raw.contained? d = some raw) ∨
      ∃ e f, raw.read = .accepted e ∧ e.run d = .error f ∧
        raw.contained? d = some (.ready e.constantsAlone) := by
  unfold contained?
  cases raw.read with
  | refused problems => exact .inl ⟨problems, rfl, rfl⟩
  | accepted e =>
    cases hrun : e.run d with
    | ok output => exact .inr (.inl ⟨e, output, rfl, hrun, by simp [Entry.failure?, hrun]⟩)
    | error f => exact .inr (.inr ⟨e, f, rfl, hrun, by simp [Entry.failure?, hrun]⟩)

/-- What remains of an entry is the same for all pages. -/
theorem contained?_congr (raw : RawEntry) (d d' : Document) :
    raw.contained? d = raw.contained? d' := by
  unfold contained?
  cases raw.read with
  | refused problems => rfl
  | accepted e =>
    dsimp only
    rw [e.failure?_eq d, e.failure?_eq d']

/-- **What remains of an entry** writes what the entry writes. -/
theorem writes_contained? (raw : RawEntry) (d : Document) :
    ((raw.contained? d).map (·.writes d)).getD [] = raw.writes d := by
  obtain ⟨problems, hread, hnone⟩ | ⟨e, output, -, -, hself⟩ | ⟨e, f, hread, hrun, hkept⟩ :=
    raw.contained?_cases d
  · rw [hnone, writes, hread]
    rfl
  · rw [hself]
    rfl
  · have hconstants : (ready e.constantsAlone).writes d = e.constantEntries := by
      show e.constantsAlone.constantEntries ++ e.constantsAlone.output d = e.constantEntries
      rw [Entry.output, Entry.run_constantsAlone, List.append_nil]
      rfl
    have hwrites : raw.writes d = e.constantEntries := by
      rw [writes, hread]
      dsimp only
      rw [Entry.output, hrun, List.append_nil]
    rw [hkept, Option.map_some, Option.getD_some, hconstants, hwrites]

/-- **What remains of an entry** does not fail. -/
theorem failure?_contained? {raw kept : RawEntry} {d : Document}
    (h : raw.contained? d = some kept) : kept.failure? d = none := by
  obtain ⟨problems, -, hnone⟩ | ⟨e, output, hread, hrun, hself⟩ | ⟨e, f, -, -, hkept⟩ :=
    raw.contained?_cases d
  · rw [hnone] at h
    cases h
  · obtain rfl := Option.some.inj (hself.symm.trans h)
    rw [failure?, hread]
    dsimp only
    rw [Entry.failure?, hrun]
  · obtain rfl := Option.some.inj (hkept.symm.trans h)
    show e.constantsAlone.failure? d = none
    rw [Entry.failure?, Entry.run_constantsAlone]

/-- An entry stays as it is exactly if it does not fail. -/
theorem contained?_eq_self_iff (raw : RawEntry) (d : Document) :
    raw.contained? d = some raw ↔ raw.failure? d = none := by
  constructor
  · exact failure?_contained?
  · intro h
    unfold failure? at h
    obtain ⟨problems, hread, -⟩ | ⟨e, output, -, -, hself⟩ | ⟨e, f, hread, hrun, -⟩ :=
      raw.contained?_cases d
    · simp [hread] at h
    · exact hself
    · simp [hread, Entry.failure?, hrun] at h

end RawEntry

/-! ## Schemas -/

namespace Schema

/-- The schema of what remains of the sections without their failures on a page. -/
def contained (schema : Schema) (d : Document) : Schema :=
  schema.filterMap (·.contained? d)

theorem writes_contained (schema : Schema) (d : Document) :
    (schema.contained d).writes d = schema.writes d := by
  have hsections (sections : List (String × RawEntry)) :
      (sections.filterMap fun s => (s.2.contained? d).map fun kept => (s.1, kept)).flatMap
        (fun s => s.2.writes d) = sections.flatMap fun s => s.2.writes d := by
    -- section by section, what remains writes what was written
    induction sections with
    | nil => rfl
    | cons s rest ih =>
      rw [List.flatMap_cons, ← s.2.writes_contained? d, ← ih]
      cases hkept : s.2.contained? d <;> simp [hkept]
  exact hsections schema.entries

theorem failing_contained (schema : Schema) (d : Document) :
    (schema.contained d).failing d = [] := by
  rw [failing, List.flatMap_eq_nil_iff]
  intro s hs
  obtain ⟨s₀, -, hs₀⟩ := List.mem_filterMap.1 hs
  obtain ⟨kept, hkept, rfl⟩ := Option.map_eq_some_iff.1 hs₀
  rw [RawEntry.failure?_contained? hkept]
  rfl

theorem contained_congr (schema : Schema) (d d' : Document) :
    schema.contained d = schema.contained d' := by
  simp only [contained, RawEntry.contained?_congr _ d d']

/-- **Failures are contained**. The record of a run, its values and the order of its columns, is the
one of the schema of what remains, which has no failures and keeps every entry that does not fail as
it is; it is the same schema on all pages. The sections that fail are noted in their order, each with
the failure of its own entry. -/
theorem failures_contained (schema : Schema) (d : Document) :
    ((schema.contained d).run d).data = (schema.run d).data ∧
      ((schema.contained d).run d).failures = .empty ∧
      (∀ s ∈ schema.entries, s.2.contained? d = some s.2 ↔ s.2.failure? d = none) ∧
      (∀ d', schema.contained d = schema.contained d') ∧
      (schema.run d).failures.keys =
        (schema.entries.filter fun s => (s.2.failure? d).isSome).map Prod.fst ∧
      ∀ name, (schema.run d).failures.get? name = (schema.get? name).bind (·.failure? d) := by
  refine ⟨?_, ?_, fun s _ => s.2.contained?_eq_self_iff d, schema.contained_congr d, ?_,
    fun name => ?_⟩
  · rw [run_data, run_data, writes_contained]
  · exact OrderedMap.ext ((run_failures _ d).trans (failing_contained schema d))
  · rw [run_failures_eq, OrderedMap.keys_filterMap]
  · exact get?_run_failures schema d name

end Schema

end ParcelRecords
