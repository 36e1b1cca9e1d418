import Mathlib.Order.Bounds.Defs
import ParcelRecords.Proofs.Table.Reads

/-!
# Labels and their positions

Beside the rows the labels are the first cells of the rows, above the columns the cells of the first
row. A label is found at the least position where a cell is equal to it up to case and to the blanks
around it. Rows without cells have no label, but they are counted as the other rows are; so what is
read at the position that is found is the label again, up to case.

## Main definitions

* `Grid.IsLabelAt`: a cell is the label at a position along an axis
* `Grid.HasLabelAt`: the label at a position is equal to a text
* `Grid.labelAt?`: the cell at the position of a label, as it is read

## Main results

* `Grid.isLabelAt_iff`: labels with their positions
* `Grid.indexOf?_eq_some_iff`: the position that is found is the least one
* `Grid.labels_found_first`: labels that are not there, labels that are, and labels that were read
-/

namespace ParcelRecords.Grid

variable {g : Grid} {axis : Axis} {i : Nat} {cell text : String}

/-! ## Labels along an axis -/

/-- The cell is the label at the position: the first cell of the row at the position, or the cell at
the position in the first row. -/
def IsLabelAt (g : Grid) : Axis → Nat → String → Prop
  | .row, i, cell => ∃ rest, g.rows[i]? = some (cell :: rest)
  | .column, i, cell => ∃ header, g.rows[0]? = some header ∧ header[i]? = some cell

/-- **A label stands at its position** in the list of labels, rows without cells counted. -/
theorem isLabelAt_iff : g.IsLabelAt axis i cell ↔ (g.labels axis)[i]? = some (some cell) := by
  cases axis with
  | row =>
    rw [labels, List.getElem?_map, Option.map_eq_some_iff]
    constructor
    · rintro ⟨rest, hrow⟩
      exact ⟨cell :: rest, hrow, rfl⟩
    · rintro ⟨cells, hrow, hfirst⟩
      obtain ⟨rest, rfl⟩ := List.head?_eq_some_iff.1 hfirst
      exact ⟨rest, hrow⟩
  | column =>
    rw [labels, List.getElem?_map]
    cases hrows : g.rows with
    | nil => simp [IsLabelAt, hrows]
    | cons header rows => simp [IsLabelAt, hrows]

/-- The label at the position is equal to the text, as labels are compared. -/
def HasLabelAt (g : Grid) (axis : Axis) (text : String) (i : Nat) : Prop :=
  ∃ cell, g.IsLabelAt axis i cell ∧ labelKey cell = labelKey text

theorem hasLabel_iff : g.HasLabel axis text ↔ ∃ i, g.HasLabelAt axis text i := by
  constructor
  · rintro ⟨cell, hmem, hkey⟩
    obtain ⟨i, hi⟩ := List.mem_iff_getElem?.1 hmem
    exact ⟨i, cell, isLabelAt_iff.2 hi, hkey⟩
  · rintro ⟨i, cell, hcell, hkey⟩
    exact ⟨cell, List.mem_of_getElem? (isLabelAt_iff.1 hcell), hkey⟩

/-- A position is taken exactly if its label is equal to the text. -/
theorem any_label_iff (hi : i < (g.labels axis).length) :
    ((g.labels axis)[i].any (labelKey · = labelKey text)) = true ↔ g.HasLabelAt axis text i := by
  rw [Option.any_eq_true]
  constructor
  · rintro ⟨cell, hcell, hkey⟩
    exact ⟨cell, isLabelAt_iff.2 (List.getElem?_eq_some_iff.2 ⟨hi, hcell⟩), of_decide_eq_true hkey⟩
  · rintro ⟨cell, hcell, hkey⟩
    obtain ⟨_, hlabel⟩ := List.getElem?_eq_some_iff.1 (isLabelAt_iff.1 hcell)
    exact ⟨cell, hlabel, decide_eq_true hkey⟩

theorem HasLabelAt.lt_length (h : g.HasLabelAt axis text i) : i < (g.labels axis).length := by
  obtain ⟨cell, hcell, -⟩ := h
  exact (List.getElem?_eq_some_iff.1 (isLabelAt_iff.1 hcell)).1

/-- **The position that is found** is the least one whose label is equal to the text. -/
theorem indexOf?_eq_some_iff :
    g.indexOf? axis text = some i ↔ IsLeast {j | g.HasLabelAt axis text j} i := by
  rw [indexOf?, List.findIdx?_eq_some_iff_getElem]
  constructor
  · rintro ⟨hi, hfound, hbefore⟩
    refine ⟨(any_label_iff hi).1 hfound, fun j hj => ?_⟩
    apply Nat.le_of_not_lt
    intro hlt
    exact hbefore j hlt ((any_label_iff hj.lt_length).2 hj)
  · rintro ⟨hi, hleast⟩
    refine ⟨hi.lt_length, (any_label_iff hi.lt_length).2 hi, fun j hlt hfound => ?_⟩
    have hle : i ≤ j := hleast ((any_label_iff _).1 hfound)
    omega

/-- A label that is there is found at its position or before it. -/
theorem HasLabelAt.exists_le (h : g.HasLabelAt axis text i) :
    ∃ j ≤ i, g.indexOf? axis text = some j ∧ g.HasLabelAt axis text j := by
  cases hfound : g.indexOf? axis text with
  | none => exact absurd (hasLabel_iff.2 ⟨i, h⟩) (indexOf?_eq_none_iff.1 hfound)
  | some j =>
    obtain ⟨hj, hleast⟩ := indexOf?_eq_some_iff.1 hfound
    exact ⟨j, hleast h, rfl, hj⟩

/-! ## Labels that are read -/

/-- The cell at the position of a label, without blanks at its ends: the one in the first column
beside the rows, the one in the first row above the columns. -/
def labelAt? (g : Grid) : Axis → Nat → Option String
  | .row, i => g.cellAt? (i : Int) 0
  | .column, i => g.cellAt? 0 (i : Int)

theorem labelAt?_eq_some (h : g.IsLabelAt axis i cell) :
    g.labelAt? axis i = some (Text.trim cell) := by
  cases axis with
  | row =>
    obtain ⟨rest, hrow⟩ := h
    show g.cellAt? (i : Int) ((0 : Nat) : Int) = some (Text.trim cell)
    rw [cellAt?_natCast, hrow]
    rfl
  | column =>
    obtain ⟨header, hrow, hcell⟩ := h
    show g.cellAt? ((0 : Nat) : Int) (i : Int) = some (Text.trim cell)
    rw [cellAt?_natCast, hrow, Option.bind_some, hcell]
    rfl

/-- **Labels are found first**. A text or a number is not found along an axis exactly if no label
there is equal to it in lowercase and without the blanks around; a label is the first cell of a row
that has one, or a cell of the first row. It is found at a position exactly if that is the least one
with such a label, rows without cells counted. So a label that is read off its cell is found where it
was read or before, and the cell there is the same up to case. -/
theorem labels_found_first (g : Grid) (axis : Axis) :
    (∀ wanted : Scalar,
      (g.indexOf? axis wanted.toText = none ↔
        ∀ i cell, g.IsLabelAt axis i cell →
          Text.lower (Text.trim cell) ≠ Text.lower (Text.trim wanted.toText)) ∧
      ∀ i, g.indexOf? axis wanted.toText = some i ↔
        IsLeast {j | ∃ cell, g.IsLabelAt axis j cell ∧
          Text.lower (Text.trim cell) = Text.lower (Text.trim wanted.toText)} i) ∧
    ∀ i cell, g.IsLabelAt axis i cell →
      ∃ label, g.labelAt? axis i = some label ∧
        ∃ j ≤ i, g.indexOf? axis label = some j ∧
          ∃ found, g.labelAt? axis j = some found ∧ Text.lower found = Text.lower label := by
  refine ⟨fun wanted => ⟨?_, fun i => indexOf?_eq_some_iff⟩, fun i cell hcell => ?_⟩
  · rw [indexOf?_eq_none_iff, hasLabel_iff]
    constructor
    · intro hnone i cell hcell hkey
      exact hnone ⟨i, cell, hcell, hkey⟩
    · rintro hnone ⟨i, cell, hcell, hkey⟩
      exact hnone i cell hcell hkey
  · have hlabel : g.HasLabelAt axis (Text.trim cell) i := ⟨cell, hcell, (labelKey_trim cell).symm⟩
    obtain ⟨j, hle, hfound, other, hother, hkey⟩ := hlabel.exists_le
    refine ⟨_, labelAt?_eq_some hcell, j, hle, hfound, _, labelAt?_eq_some hother, ?_⟩
    rwa [labelKey_trim] at hkey

/-- Behind a row without cells and a label in capitals stands the same label in small letters. It is
found where the one in capitals stands. -/
theorem labels_found_first_empty_row :
    let g : Grid := ⟨.horizontal, some [["Land", "1"], [], [" YEAR\t", "2"], ["year", "3"], ["7"]]⟩
    g.IsLabelAt .row 3 "year" ∧ g.labelAt? .row 3 = some "year" ∧
      (∃ j ≤ 3, g.indexOf? .row "year" = some j ∧
        ∃ found, g.labelAt? .row j = some found ∧ Text.lower found = "year") ∧
      IsLeast {j | ∃ cell, g.IsLabelAt .row j cell ∧
        Text.lower (Text.trim cell) = Text.lower (Text.trim (Scalar.int 7).toText)} 4 ∧
      ∀ i cell, g.IsLabelAt .column i cell → Text.lower (Text.trim cell) ≠ "7" := by
  intro g
  obtain ⟨hwanted, hread⟩ := labels_found_first g .row
  have hyear : g.IsLabelAt .row 3 "year" := ⟨["3"], rfl⟩
  have hseven : g.indexOf? .row (Scalar.int 7).toText = some 4 := by decide +kernel
  have hnone : g.indexOf? .column (Scalar.int 7).toText = none := by decide +kernel
  obtain ⟨label, hlabel, hfound⟩ := hread 3 "year" hyear
  have heq : g.labelAt? .row 3 = some "year" := by decide +kernel
  obtain rfl : label = "year" := Option.some.inj (hlabel.symm.trans heq)
  have hlower : Text.lower "year" = "year" := by decide +kernel
  have hkey : Text.lower (Text.trim (Scalar.int 7).toText) = "7" := by decide +kernel
  refine ⟨hyear, hlabel, hlower ▸ hfound, ((hwanted (.int 7)).2 4).1 hseven, ?_⟩
  intro i cell hcell
  rw [← hkey]
  exact ((labels_found_first g .column).1 (.int 7)).1.1 hnone i cell hcell

end ParcelRecords.Grid
