import ParcelRecords.Proofs.Extraction.Run
import ParcelRecords.Proofs.Record.Flatten

/-!
# Where the values of a record come from

A value in the record of a page was read from the page, where there are only texts, lists of texts
and the states of boxes, or it stands in the constants of a section. A property of all such page
values that objects hand down to their fields is therefore handed down by a schema to the flat
record of every page.

## Main definitions

* `Json.Hereditary`: a property of page values that objects hand down

## Main results

* `Entry.forall_run`: what an entry reads from a page
* `RawEntry.forall_writes`: what a section writes to the record, constants included
* `Extraction.forall_flat`: the flat record of a page
-/

namespace ParcelRecords

open Markup (Document Focus)

/-- A property that the values of pages have, and that an object hands down to its fields. -/
structure Json.Hereditary (P : Json → Prop) : Prop where
  null : P .null
  bool (b : Bool) : P (.bool b)
  str (s : String) : P (.str s)
  texts (items : List String) : P (.arr (items.map .str))
  field {fields : List (String × Json)} (h : P (.obj fields)) : ∀ f ∈ fields, P f.2

/-! ## Accepted values -/

namespace Checked

variable {α β : Type}

theorem exists_of_map_eq_accepted {f : α → β} {c : Checked α} {b : β}
    (h : (f <$> c) = .accepted b) : ∃ a, c = .accepted a ∧ f a = b := by
  cases c with
  | accepted a =>
    cases h
    exact ⟨a, rfl, rfl⟩
  | refused problems => cases h

/-- A check of several parts accepts only what its parts accept. -/
theorem exists_of_seq_eq_accepted {f : Checked (α → β)} {c : Checked α} {b : β}
    (h : (f <*> c) = .accepted b) : ∃ g a, f = .accepted g ∧ c = .accepted a ∧ g a = b := by
  cases f with
  | accepted g =>
    cases c with
    | accepted a =>
      cases h
      exact ⟨g, a, rfl, rfl, rfl⟩
    | refused problems => cases h
  | refused faults => cases c <;> cases h

theorem fields_readAny (path : List String) (members : List (String × Json)) :
    fields Entry.readAny path members = .accepted members := by
  induction members with
  | nil => rfl
  | cons member rest ih => rw [fields, ih]; rfl

end Checked

namespace Entry

open Checked (exists_of_map_eq_accepted exists_of_seq_eq_accepted)

/-- An object of values of any sort is taken as it is. -/
theorem fields?_of_readObject_readAny {path : List String} {value : Json} {m : OrderedMap Json}
    (h : readObject readAny path value = .accepted m) : value.fields? = some m := by
  unfold readObject at h
  split at h
  · rename_i fields hfields
    rw [Checked.fields_readAny, Checked.map, OrderedMap.ofList_entries] at h
    cases h
    exact hfields
  · cases h

/-- The value of a key that is not null and not missing stands in the object. -/
theorem exists_of_readKey_eq_accepted {α : Type} {fields : OrderedMap Json} {path : List String}
    {key : Key} {check : List String → Json → Checked α} {a : α}
    (h : readKey fields path key none (readNullable check) = .accepted (some a)) :
    ∃ f ∈ fields.entries, ∃ path, check path f.2 = .accepted a := by
  unfold readKey at h
  split at h
  · rename_i spelling value hfind
    have hmem : ∃ f ∈ fields.entries, f.2 = value := by
      unfold Key.find? at hfind
      split at hfind
      · rename_i hcamel
        cases hfind
        exact ⟨_, OrderedMap.get?_eq_some_iff.1 hcamel, rfl⟩
      · obtain ⟨snake, hsnake, heq⟩ := Option.map_eq_some_iff.1 hfind
        cases heq
        exact ⟨_, OrderedMap.get?_eq_some_iff.1 hsnake, rfl⟩
    obtain ⟨f, hf, rfl⟩ := hmem
    unfold readNullable at h
    split at h
    · cases h
    · obtain ⟨a', hcheck, heq⟩ := exists_of_map_eq_accepted h
      cases heq
      exact ⟨f, hf, _, hcheck⟩
  · cases h

/-- **The constants of an entry** are the fields of an object inside its value. -/
theorem exists_constants_of_read {value : Json} {e : Entry} {m : OrderedMap Json}
    (h : Entry.read value = .accepted e) (hconstants : e.constants = some m) :
    ∃ fields, value.fields? = some fields ∧ ∃ f ∈ fields.entries, f.2.fields? = some m := by
  unfold Entry.read at h
  split at h
  · cases h
  · rename_i fields hfields
    refine ⟨fields, hfields, ?_⟩
    -- the settings are peeled off from the last to the constants, and then to the first
    obtain ⟨_, _, h₁₀, -, rfl⟩ := exists_of_seq_eq_accepted h
    obtain ⟨_, _, h₉, -, rfl⟩ := exists_of_seq_eq_accepted h₁₀
    obtain ⟨_, _, h₈, -, rfl⟩ := exists_of_seq_eq_accepted h₉
    obtain ⟨_, _, h₇, -, rfl⟩ := exists_of_seq_eq_accepted h₈
    obtain ⟨_, constants, h₆, hread, rfl⟩ := exists_of_seq_eq_accepted h₇
    obtain ⟨_, _, h₅, -, rfl⟩ := exists_of_seq_eq_accepted h₆
    obtain ⟨_, _, h₄, -, rfl⟩ := exists_of_seq_eq_accepted h₅
    obtain ⟨_, _, h₃, -, rfl⟩ := exists_of_seq_eq_accepted h₄
    obtain ⟨_, _, h₂, -, rfl⟩ := exists_of_seq_eq_accepted h₃
    obtain ⟨_, _, h₁, -, rfl⟩ := exists_of_seq_eq_accepted h₂
    obtain ⟨_, -, rfl⟩ := exists_of_map_eq_accepted h₁
    obtain rfl : constants = some m := hconstants
    obtain ⟨f, hf, _, hobject⟩ := exists_of_readKey_eq_accepted hread
    exact ⟨f, hf, fields?_of_readObject_readAny hobject⟩

end Entry

/-! ## Leaves -/

mutual

theorem Record.forall_leaves {P : Json → Prop} (hP : Json.Hereditary P) {value : Json}
    (hvalue : P value) : ∀ l ∈ Record.leaves value, P l.2 := by
  cases value with
  | obj fields =>
    rw [Record.leaves]
    exact Record.forall_leavesOf hP (hP.field hvalue)
  | _ => simpa [Record.leaves] using hvalue

theorem Record.forall_leavesOf {P : Json → Prop} (hP : Json.Hereditary P)
    {fields : List (String × Json)} (hfields : ∀ f ∈ fields, P f.2) :
    ∀ l ∈ Record.leavesOf fields, P l.2 := by
  match fields with
  | [] => simp [Record.leavesOf]
  | (key, value) :: rest =>
    intro l hl
    rw [Record.leavesOf] at hl
    rcases List.mem_append.1 hl with hl | hl
    · obtain ⟨below, hbelow, rfl⟩ := List.mem_map.1 hl
      exact Record.forall_leaves hP (hfields _ List.mem_cons_self) below hbelow
    · exact Record.forall_leavesOf hP (fun f hf => hfields f (List.mem_cons_of_mem _ hf)) l hl

end

/-! ## Pages -/

section Hereditary

variable {P : Json → Prop} (hP : Json.Hereditary P)

include hP

theorem Json.Hereditary.fields {value : Json} {fields : OrderedMap Json} (hvalue : P value)
    (h : value.fields? = some fields) : ∀ f ∈ fields.entries, P f.2 := by
  intro f hf
  cases value with
  | obj members =>
    cases h
    exact hP.field hvalue f (OrderedMap.mem_of_mem_entries_ofList hf)
  | _ => cases h

namespace Appraiser

theorem forall_rowFields (row : Focus) : ∀ f ∈ rowFields row, P f.2 := by
  intro f hf
  obtain ⟨field, -, rfl⟩ := List.mem_map.1 hf
  exact hP.str _

theorem forall_rowValues (years : List String) (authority : String) (row : Focus) :
    ∀ f ∈ rowValues years authority row, P f.2 := by
  intro f hf
  obtain ⟨metric, -, hf⟩ := List.mem_flatMap.1 hf
  obtain ⟨i, hi, rfl⟩ := List.mem_mapIdx.1 hf
  dsimp only
  -- a row with too few values has nothing for the last years
  cases (allTexts row ".text-end-mine span")[i]? with
  | none => exact hP.null
  | some text => exact hP.str text

theorem forall_taxRows (years : List String) (authority : Option String) (rows : List Focus) :
    ∀ f ∈ taxRows years authority rows, P f.2 := by
  induction rows generalizing authority with
  | nil => simp [taxRows]
  | cons row rest ih =>
    intro f hf
    simp only [taxRows] at hf
    split at hf
    · exact ih _ f hf
    · split at hf
      · exact ih _ f hf
      · rcases List.mem_append.1 hf with hf | hf
        · exact forall_rowValues hP _ _ _ f hf
        · exact ih _ f hf

/-- What an appraiser page without tables gives. -/
theorem forall_record? {d : Document} {record : Record} (h : record? d = some record) :
    ∀ f ∈ record.entries, P f.2 := by
  have hproperty (s : Option Focus) : ∀ f ∈ sectionEntries propertyFields s, P f.2 := by
    intro f hf
    cases s with
    | none => cases hf
    | some s =>
      obtain ⟨row, -, hf⟩ := List.mem_flatMap.1 hf
      exact forall_rowFields hP row f hf
  have htax (s : Option Focus) : ∀ f ∈ sectionEntries taxValues s, P f.2 := by
    intro f hf
    cases s with
    | none => cases hf
    | some s => exact forall_taxRows hP _ _ _ f hf
  intro f hf
  unfold record? at h
  split at h
  · cases h
  · cases h
    rcases List.mem_append.1 (OrderedMap.mem_of_mem_entries_ofList hf) with hf | hf
    · exact hproperty _ f hf
    · exact htax _ f hf

end Appraiser

namespace Entry

theorem textOrNull_of_hereditary (s : Option String) : P (textOrNull s) := by
  cases s with
  | none => exact hP.null
  | some text => exact hP.str text

theorem textsOrNull_of_hereditary (texts : Option (List String)) : P (textsOrNull texts) := by
  cases texts with
  | none => exact hP.null
  | some items => exact hP.texts items

theorem controlValue_of_hereditary (d : Document) (selector : String) :
    P (controlValue d selector) := by
  unfold controlValue
  split
  · rename_i f _
    cases Form.value d f with
    | text s => exact hP.str s
    | checked b => exact hP.bool b
    | unset => exact hP.null
  · exact hP.null

omit hP in
theorem forall_readEach {missing : Failure} {read : String → Json}
    {m : Option (OrderedMap String)} {output : List (String × Json)}
    (h : readEach missing read m = .ok output) (hread : ∀ s, P (read s)) :
    ∀ f ∈ output, P f.2 := by
  intro f hf
  unfold readEach at h
  split at h
  · cases h
  · cases h
    obtain ⟨e, -, rfl⟩ := List.mem_map.1 hf
    exact hread e.2

/-- **What an entry reads** from a page. -/
theorem forall_run {e : Entry} {d : Document} {output : List (String × Json)}
    (h : e.run d = .ok output) : ∀ f ∈ output, P f.2 := by
  have hone {name : String} {value : Json} (hvalue : P value) :
      ∀ f ∈ [(name, value)], P f.2 := by
    simpa using hvalue
  unfold run at h
  split at h
  · -- a whole table
    cases h
    intro f hf
    obtain ⟨v, -, rfl⟩ := List.mem_map.1 hf
    exact hP.str _
  · exact forall_readEach h fun s => textOrNull_of_hereditary hP _
  · -- a row
    split at h
    · cases h
      exact hone (textsOrNull_of_hereditary hP _)
    · cases h
  · -- a column
    split at h
    · cases h
      exact hone (textsOrNull_of_hereditary hP _)
    · cases h
  · -- a cell
    split at h
    · cases h
      exact hone (textOrNull_of_hereditary hP _)
    · cases h
  · -- an element
    split at h
    · cases h
    · cases h
      exact hone (textOrNull_of_hereditary hP _)
  · exact forall_readEach h (controlValue_of_hereditary hP d)
  · -- a page without tables
    cases h
    cases hrecord : Appraiser.record? d with
    | none => simp
    | some record => exact Appraiser.forall_record? hP hrecord

end Entry

/-! ## Sections and schemas -/

/-- **What a section writes**: what it reads, and constants that were in its value. -/
theorem RawEntry.forall_writes {value : Json} (hvalue : P value) (d : Document) :
    ∀ f ∈ (RawEntry.json value).writes d, P f.2 := by
  intro f hf
  unfold RawEntry.writes RawEntry.read at hf
  dsimp only at hf
  cases hread : Entry.read value with
  | refused problems =>
    rw [hread] at hf
    cases hf
  | accepted e =>
    rw [hread] at hf
    rcases List.mem_append.1 hf with hf | hf
    · -- constants stand two levels deep in the value of the section
      unfold Entry.constantEntries at hf
      cases hconstants : e.constants with
      | none =>
        rw [hconstants] at hf
        cases hf
      | some constants =>
        rw [hconstants] at hf
        obtain ⟨fields, hfields, g, hg, hobject⟩ := Entry.exists_constants_of_read hread hconstants
        exact hP.fields (hP.fields hvalue hfields g hg) hobject f hf
    · unfold Entry.output at hf
      cases hrun : e.run d with
      | ok output =>
        rw [hrun] at hf
        exact Entry.forall_run hP hrun f hf
      | error failure =>
        rw [hrun] at hf
        cases hf

/-- The record of a page under a schema given as a value. -/
theorem Schema.forall_run_data {value : Json} (hvalue : P value) {schema : Schema}
    (h : Schema.ofJson? value = some schema) (d : Document) :
    ∀ f ∈ (schema.run d).data.entries, P f.2 := by
  obtain ⟨fields, hfields, rfl⟩ := Option.map_eq_some_iff.1 h
  intro f hf
  rw [Schema.run_data] at hf
  obtain ⟨section_, hsection, hf⟩ :=
    List.mem_flatMap.1 (OrderedMap.mem_of_mem_entries_ofList hf)
  obtain ⟨g, hg, rfl⟩ := List.mem_map.1 (OrderedMap.mem_of_mem_entries_ofList hsection)
  exact RawEntry.forall_writes hP (hP.fields hvalue hfields g hg) d f hf

/-! ## Flat records -/

/-- Flattening a record keeps what holds of its values. -/
theorem Record.forall_flatten {data : Record} (hdata : ∀ f ∈ data.entries, P f.2) (path : String) :
    ∀ f ∈ (data.flatten path).entries, P f.2 := by
  intro f hf
  rw [Record.flatten_eq] at hf
  obtain ⟨l, hl, rfl⟩ := List.mem_map.1 (OrderedMap.mem_of_mem_entries_ofList hf)
  exact Record.forall_leavesOf hP hdata l hl

/-- **The flat record of a page** has what its schema hands down. -/
theorem Extraction.forall_flat {value : Json} (hvalue : P value) {html : String} {x : Extraction}
    (h : Extraction.ofPage value html = .ok x) : ∀ f ∈ x.flat.entries, P f.2 := by
  unfold Extraction.ofPage at h
  split at h
  · cases h
  · cases h
  · rename_i document schema _ hschema
    cases h
    exact Record.forall_flatten hP (Schema.forall_run_data hP hvalue hschema document) ""

end Hereditary

end ParcelRecords
