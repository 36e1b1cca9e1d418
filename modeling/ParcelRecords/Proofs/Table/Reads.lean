import ParcelRecords.Proofs.Text.Ends
import ParcelRecords.Table.Grid

/-!
# Reads of a grid by position

Every read first turns its identifiers into positions and then looks there. Here are the reads once
the positions are known, and what it takes for a label to have a position.

## Main definitions

* `Grid.HasLabel`: a label stands along an axis

## Main results

* `Grid.cellAt?_natCast`, `Grid.rowTexts?_of_resolve`, `Grid.columnTexts?_of_resolve`: reads at
  known positions
* `Grid.indexOf?_eq_none_iff`, `Grid.indexOf?_eq_some_of_unique`: labels that are not there, and
  labels that are there once
-/

namespace ParcelRecords

/-! ## Positions -/

theorem itemAt?_natCast {α : Type} (items : List α) (i : Nat) : itemAt? items (i : Int) = items[i]? := by
  have hi : ¬(i : Int) < 0 := by omega
  rw [itemAt?, if_neg hi, Int.toNat_natCast]

theorem itemAt?_eq_none_iff {α : Type} {items : List α} {i : Int} :
    itemAt? items i = none ↔ ¬(0 ≤ i ∧ i < items.length) := by
  unfold itemAt?
  split
  · rename_i hi
    have hnot : ¬(0 ≤ i ∧ i < items.length) := by omega
    exact iff_of_true rfl hnot
  · rw [List.getElem?_eq_none_iff]
    omega

namespace Grid

variable {g : Grid}

/-! ## Labels -/

/-- The blanks around a label are not compared. -/
theorem labelKey_trim (text : String) : labelKey (Text.trim text) = labelKey text := by
  rw [labelKey, labelKey, Text.trim_trim]

/-- A text is equal to a label along an axis, as labels are compared. -/
def HasLabel (g : Grid) (axis : Axis) (text : String) : Prop :=
  ∃ label, some label ∈ g.labels axis ∧ labelKey label = labelKey text

/-- **A label is not found** exactly if no label along the axis is equal to it. -/
theorem indexOf?_eq_none_iff {axis : Axis} {text : String} :
    g.indexOf? axis text = none ↔ ¬g.HasLabel axis text := by
  rw [indexOf?, List.findIdx?_eq_none_iff]
  constructor
  · rintro hnone ⟨label, hmem, hkey⟩
    have hfalse := hnone _ hmem
    simp [hkey] at hfalse
  · intro hnot label hmem
    -- a row without cells has no label at all
    cases label with
    | none => rfl
    | some label =>
      have hne : labelKey label ≠ labelKey text := fun hkey => hnot ⟨label, hmem, hkey⟩
      simpa using hne

/-- A label beside the rows is found at one of the rows. -/
theorem indexOf?_row_lt {text : String} {i : Nat} (h : g.indexOf? .row text = some i) :
    i < g.rows.length := by
  obtain ⟨hlt, -⟩ := List.findIdx?_eq_some_iff_getElem.1 h
  simpa [labels] using hlt

/-- **A label that stands once** along an axis is found where it stands. -/
theorem indexOf?_eq_some_of_unique {axis : Axis} {i : Nat} {label text : String}
    (hlabel : (g.labels axis)[i]? = some (some label)) (htext : labelKey text = labelKey label)
    (hunique : ∀ j other, (g.labels axis)[j]? = some (some other) →
      labelKey other = labelKey label → j = i) : g.indexOf? axis text = some i := by
  obtain ⟨hlt, hi⟩ := List.getElem?_eq_some_iff.1 hlabel
  refine List.findIdx?_eq_some_iff_getElem.2 ⟨hlt, ?_, fun j hj hfound => ?_⟩
  · rw [hi]
    simp [htext]
  · -- an equal label before the position would be a second one
    cases hother : (g.labels axis)[j] with
    | none => simp [hother] at hfound
    | some other =>
      have hkey : labelKey other = labelKey label := by simpa [hother, htext] using hfound
      have hj' := hunique j other (List.getElem?_eq_some_iff.2 ⟨by omega, hother⟩) hkey
      omega

/-! ## Reads at known positions -/

theorem cellAt?_natCast (row column : Nat) :
    g.cellAt? (row : Int) (column : Int) =
      (g.rows[row]?.bind fun cells => cells[column]?).map Text.trim := by
  rw [cellAt?, itemAt?_natCast]
  simp only [itemAt?_natCast]

theorem rowTexts?_of_resolve {row : Identifier} {i : Int} (h : g.resolve? .row row = some i) :
    g.rowTexts? row =
      (itemAt? g.rows i).map fun cells => (cells.drop g.rowStart).map Text.trim := by
  rw [rowTexts?, h]
  cases hi : itemAt? g.rows i <;> simp [hi]

theorem rowTexts?_of_unresolved {row : Identifier} (h : g.resolve? .row row = none) :
    g.rowTexts? row = none := by
  rw [rowTexts?, h]
  rfl

theorem columnTexts?_of_resolve {column : Identifier} {i : Int}
    (h : g.resolve? .column column = some i) (hi : 0 ≤ i) :
    g.columnTexts? column = some ((g.rows.drop g.columnStart).map fun cells =>
      Text.trim ((cells[i.toNat]?).getD "")) := by
  have hnot : ¬i < 0 := by omega
  simp [columnTexts?, h, hnot]

theorem resolve?_label (axis : Axis) (text : String) :
    g.resolve? axis (.label text) = (g.indexOf? axis text).map Int.ofNat := rfl

end Grid

end ParcelRecords
