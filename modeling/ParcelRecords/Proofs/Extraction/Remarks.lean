import ParcelRecords.Proofs.Entry.Refusal
import ParcelRecords.Proofs.Extraction.Run

/-!
# Remarks foretell failures

Remarks are made on a schema without a page, failures are met while a page is read. They agree: a
section fails, on whatever page, exactly if there is a remark on it that is more than advice. For a
valid entry the failure is the one that belongs to its first real shortfall; an invalid entry fails
with the number of its problems.

## Main definitions

* `Shortfall.failure?`: the failure that a lack of an entry leads to
* `Schema.IsAdvice`: a line that remarks on a section without foretelling a failure

## Main results

* `Entry.failure?_eq`: the failure of a valid entry is read off its shortfalls
* `RawEntry.isSome_failure?_iff`: an entry fails if a remark on it is no advice
* `Schema.failures_agree_with_remarks`: the same for whole schemas, on all pages
-/

namespace ParcelRecords

open Markup (Document)

/-! ## Shortfalls -/

/-- The failure that a lack leads to; advice leads to none. -/
def Shortfall.failure? : Shortfall → Option Failure
  | .shape | .table _ => none
  | .rowIdentifier .cell | .columnIdentifier .cell => some .needsRowAndColumn
  | .rowIdentifier _ => some .needsRow
  | .columnIdentifier _ => some .needsColumn
  | .tableSelectors => some .needsTableSelectors
  | .cellSelector => some .needsCellSelector
  | .formdata => some .needsFormdata

theorem Shortfall.isSome_failure? (s : Shortfall) : s.failure?.isSome = !s.isAdvice := by
  cases s with
  | rowIdentifier m => cases m <;> rfl
  | columnIdentifier m => cases m <;> rfl
  | _ => rfl

namespace Entry

theorem failure?_readEach (missing : Failure) (read : String → Json)
    (m : Option (OrderedMap String)) :
    (∃ output, readEach missing read m = .ok output ∧ blankMap m = false) ∨
      readEach missing read m = .error missing ∧ blankMap m = true := by
  unfold readEach blankMap OrderedMap.isEmpty
  cases (m.getD .empty).entries with
  | nil => exact .inr ⟨rfl, rfl⟩
  | cons e rest => exact .inl ⟨_, rfl, rfl⟩

theorem findSome?_advice {s : Shortfall} (h : s.isAdvice = true) (b : Bool) :
    (if b then [s] else []).findSome? Shortfall.failure? = none := by
  have hs : s.failure? = none := by
    rw [← Option.not_isSome_iff_eq_none, Shortfall.isSome_failure?, h]
    decide
  cases b <;> simp [hs]

/-- **The failure of a valid entry** is that of its first shortfall that is no advice. -/
theorem failure?_eq (e : Entry) (d : Document) :
    e.failure? d = e.shortfalls.findSome? Shortfall.failure? := by
  simp only [shortfalls, List.findSome?_append]
  -- the advice is given first and leads to no failure
  rw [findSome?_advice rfl, findSome?_advice rfl, Option.none_or, Option.none_or]
  -- what is left are the lacks of one method, which are those that its run meets
  unfold failure? run
  cases hm : e.method with
  | allData => simp
  | appraiserPage => simp
  | row => cases e.rowIdentifier <;> simp [Shortfall.failure?]
  | column => cases e.columnIdentifier <;> simp [Shortfall.failure?]
  | cell => cases e.rowIdentifier <;> cases e.columnIdentifier <;> simp [Shortfall.failure?]
  | cellSelector =>
    by_cases hs : e.cellSelector.getD "" = ""
    · simp [blankText, hs, Shortfall.failure?]
    · simp [blankText, hs]
  | bySelectors =>
    rcases failure?_readEach .needsTableSelectors (fun s => textOrNull (selectedText? d s))
      e.tableSelectors with ⟨output, hrun, hblank⟩ | ⟨hrun, hblank⟩
    · simp [hrun, hblank]
    · simp [hrun, hblank, Shortfall.failure?]
  | formData =>
    rcases failure?_readEach .needsFormdata (controlValue d) e.formdata with
      ⟨output, hrun, hblank⟩ | ⟨hrun, hblank⟩
    · simp [hrun, hblank]
    · simp [hrun, hblank, Shortfall.failure?]

end Entry

/-! ## Entries -/

namespace RawEntry

open Schema (entryRemarks)

/-- The failure of an entry is the same on all pages. -/
theorem failure?_congr (raw : RawEntry) (d d' : Document) : raw.failure? d = raw.failure? d' := by
  unfold failure?
  cases raw.read with
  | refused problems => rfl
  | accepted e => exact (e.failure?_eq d).trans (e.failure?_eq d').symm

/-- A refused entry has a problem. -/
theorem problems_ne_nil {raw : RawEntry} {problems : List Problem}
    (h : raw.read = .refused problems) : problems ≠ [] := by
  rintro rfl
  cases raw with
  | json value => exact Entry.isExplained_read value h
  | ready e => cases h

/-- **An entry fails** exactly if a remark on it is no advice. -/
theorem isSome_failure?_iff (raw : RawEntry) (d : Document) :
    (raw.failure? d).isSome = true ↔ ∃ r ∈ entryRemarks raw, r.isAdvice = false := by
  unfold failure? entryRemarks
  cases hread : raw.read with
  | refused problems =>
    obtain ⟨p, rest, rfl⟩ := List.exists_cons_of_ne_nil (problems_ne_nil hread)
    simp [Schema.Remark.isAdvice]
  | accepted e =>
    dsimp only
    rw [e.failure?_eq d, List.findSome?_isSome_iff]
    simp [Shortfall.isSome_failure?, Schema.Remark.isAdvice]

end RawEntry

/-! ## Lines -/

namespace Schema

/-- A line that says of a section that it declares no shape or names no table. -/
def IsAdvice (section_ line : String) : Prop :=
  ∃ s : Shortfall, s.isAdvice = true ∧ line = (Remark.shortfall s).message section_

theorem not_mem_name (m : Method) :
    ':' ∉ m.name.toList ∧ '(' ∉ m.name.toList ∧ 'D' ∉ m.name.toList := by
  cases m <;> decide

/-- Among shortfalls, advice is known by its characters. -/
theorem isAdvice_iff_mem_message (s : Shortfall) :
    s.isAdvice = true ↔ '(' ∈ s.message.toList ∨ 'D' ∈ s.message.toList := by
  cases s with
  | shape => decide
  | table m => simp [Shortfall.isAdvice, Shortfall.message]
  | rowIdentifier m =>
    obtain ⟨-, hbracket, hcapital⟩ := not_mem_name m
    simp [Shortfall.isAdvice, Shortfall.message, hbracket, hcapital]
  | columnIdentifier m =>
    obtain ⟨-, hbracket, hcapital⟩ := not_mem_name m
    simp [Shortfall.isAdvice, Shortfall.message, hbracket, hcapital]
  | tableSelectors => decide
  | cellSelector => decide
  | formdata => decide

theorem colon_not_mem_message {s : Shortfall} (h : s.isAdvice = true) :
    ':' ∉ s.message.toList := by
  cases s with
  | shape => decide
  | table m =>
    obtain ⟨hcolon, -, -⟩ := not_mem_name m
    simp [Shortfall.message, hcolon]
  | _ => cases h

/-- **The line of a remark** tells whether it is advice. -/
theorem isAdvice_message_iff (section_ : String) (r : Remark) :
    IsAdvice section_ (r.message section_) ↔ r.isAdvice = true := by
  constructor
  · rintro ⟨s, hs, hline⟩
    cases r with
    | problem p =>
      -- the line of a problem has a colon behind the name of the section, advice has none
      exfalso
      have htail := congrArg String.toList hline
      simp only [Remark.message, String.toList_append, List.append_assoc] at htail
      have hcolon := List.append_cancel_left (List.append_cancel_left htail)
      refine colon_not_mem_message hs ?_
      rw [← hcolon]
      simp
    | shortfall t =>
      -- equal lines have equal messages, whose characters tell advice from the rest
      have htail := congrArg String.toList hline
      simp only [Remark.message, String.toList_append, List.append_assoc] at htail
      have hmessage := List.append_cancel_left (List.append_cancel_left htail)
      rw [isAdvice_iff_mem_message, ← hmessage, ← isAdvice_iff_mem_message] at hs
      exact hs
  · intro h
    cases r with
    | problem p => cases h
    | shortfall s => exact ⟨s, h, rfl⟩

theorem remarks_single (section_ : String) (raw : RawEntry) :
    (single section_ raw).remarks = (entryRemarks raw).map (Remark.message section_) := by
  simp [remarks, single, upsert]

/-- A section fails exactly if a line that remarks on it alone is no advice. -/
theorem isSome_failure?_iff_lines (section_ : String) (raw : RawEntry) (d : Document) :
    (raw.failure? d).isSome = true ↔
      ∃ line ∈ (single section_ raw).remarks, ¬ IsAdvice section_ line := by
  rw [raw.isSome_failure?_iff d, remarks_single]
  simp [isAdvice_message_iff]

theorem entryRemarks_eq_nil {schema : Schema} (h : schema.remarks = []) {s : String × RawEntry}
    (hs : s ∈ schema.entries) : entryRemarks s.2 = [] :=
  List.map_eq_nil_iff.1 (List.flatMap_eq_nil_iff.1 h s hs)

/-! ## Schemas -/

/-- **Remarks and failures agree**. On every page a section fails exactly if the remarks on it alone
hold more than advice, so that a schema without remarks runs without failures, and all pages have
the same failures. An invalid entry fails with the number of the remarks on it. -/
theorem failures_agree_with_remarks (schema : Schema) (d : Document) :
    (∀ name, name ∈ (schema.run d).failures.keys ↔
      ∃ raw, schema.get? name = some raw ∧
        ∃ line ∈ (single name raw).remarks, ¬ IsAdvice name line) ∧
    (schema.remarks = [] → (schema.run d).failures = .empty) ∧
    (∀ d', (schema.run d').failures = (schema.run d).failures) ∧
    ∀ name raw problems, schema.get? name = some raw → raw.read = .refused problems →
      ((schema.run d).failures.get? name).map Failure.message =
        some ("invalid config: " ++ toString (single name raw).remarks.length ++
          " validation error(s)") := by
  have hkeys : ∀ name, name ∈ (schema.run d).failures.keys ↔
      ∃ raw, schema.get? name = some raw ∧ (raw.failure? d).isSome = true := by
    intro name
    rw [OrderedMap.mem_keys_iff, get?_run_failures]
    cases schema.get? name <;> simp [Option.isSome_iff_exists]
  refine ⟨fun name => ?_, fun hnone => ?_, fun d' => ?_, fun name raw problems hraw hread => ?_⟩
  · rw [hkeys]
    refine exists_congr fun raw => and_congr_right fun _ => ?_
    exact isSome_failure?_iff_lines name raw d
  -- without remarks no section fails
  · refine OrderedMap.ext ?_
    rw [run_failures, failing, OrderedMap.entries_empty, List.flatMap_eq_nil_iff]
    intro s hs
    have hfine : ¬ (s.2.failure? d).isSome = true := by
      rw [s.2.isSome_failure?_iff d, entryRemarks_eq_nil hnone hs]
      simp
    rw [Option.not_isSome_iff_eq_none] at hfine
    rw [hfine]
    rfl
  · refine OrderedMap.ext ?_
    rw [run_failures, run_failures]
    refine List.flatMap_congr fun s _ => ?_
    rw [s.2.failure?_congr d' d]
  · have hfailure : raw.failure? d = some (.invalid problems.length) := by
      rw [RawEntry.failure?, hread]
    rw [get?_run_failures, hraw, Option.bind_some, hfailure, remarks_single, List.length_map,
      entryRemarks, hread, List.length_map]
    rfl

/-- An entry with an unknown shape and no method name fails everywhere, with its two problems. -/
theorem failures_agree_with_remarks_refused :
    let raw := RawEntry.json (.obj [("tableType", .str "diagonal"), ("function", .int 3)])
    raw.read = .refused [⟨["tableType"], .notShape⟩, ⟨["function"], .notMethod⟩] ∧
      "values" ∈ ((single "values" raw).run ⟨[]⟩).failures.keys ∧
      (((single "values" raw).run ⟨[]⟩).failures.get? "values").map Failure.message =
        some "invalid config: 2 validation error(s)" := by
  intro raw
  have hread : raw.read = .refused [⟨["tableType"], .notShape⟩, ⟨["function"], .notMethod⟩] := rfl
  obtain ⟨hiff, -, -, hcount⟩ := failures_agree_with_remarks (single "values" raw) ⟨[]⟩
  refine ⟨hread, (hiff "values").2 ⟨raw, rfl, ?_⟩, ?_⟩
  · rw [← isSome_failure?_iff_lines "values" raw ⟨[]⟩, RawEntry.failure?, hread]
    rfl
  · have hlines : (single "values" raw).remarks.length = 2 := rfl
    rw [hcount "values" raw _ rfl hread, hlines]
    decide

end Schema

end ParcelRecords
