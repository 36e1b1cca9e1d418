import ParcelRecords.Proofs.Delimited.RoundTrip

/-!
# Cells that are split

A cell that is not kept stands without quotes and holds a character that ends a row for the reader.
The reader ends the row there, so the row that it holds is another one than was written, and all
that follows is out of step. Rows are read back exactly if all their cells are kept.

The text may go without the terminator of its last row, if that row has a cell.

## Main results

* `exists_readRowsFrom_encodeCell`: where a cell that is not kept is split
* `exists_readRowsFrom_encodeRow`: a row with such a cell is read as another one
* `readRowsFrom_encodeRows_iff`: which rows are read back
-/

namespace ParcelRecords.Delimited

variable {d : Dialect} {b : RowBreak}

/-! ## The end of a row -/

/-- A reader that need not look ahead ends a row at every character that does not pass. -/
theorem RowBreak.endsAt_of_not_passes (hb : b ≠ .pair) {c : Char} (h : ¬b.Passes c) :
    b.endsAt c = true := by
  cases hends : b.endsAt c with
  | true => rfl
  | false =>
    refine absurd ⟨hends, ?_⟩ h
    rintro rfl
    cases b with
    | lineFeed => rfl
    | pair => exact absurd rfl hb
    | any => cases hends

/-- Outside quotes the row under way ends at a character that ends rows, whatever follows. -/
theorem exists_readRowsFrom_of_endsAt {δ : Char} {p : Pending} (hp : p.place ≠ .quoted) {c : Char}
    (hends : b.endsAt c = true) (cs : List Char) :
    ∃ rest, readRowsFrom δ b p (c :: cs) = p.row :: rest := by
  rw [readRowsFrom.eq_def]
  split
  · rename_i heq
    cases heq
  · -- a carriage return ends the row, with the line feed behind it or without
    rename_i heq
    obtain ⟨rfl, rfl⟩ := List.cons.inj heq
    split
    · exact ⟨_, rfl⟩
    · rw [if_pos ⟨hp, hends⟩]
      exact ⟨_, rfl⟩
  · rename_i heq
    obtain ⟨rfl, rfl⟩ := List.cons.inj heq
    rw [if_pos ⟨hp, hends⟩]
    exact ⟨_, rfl⟩

/-! ## Cells -/

/-- Inside a cell without quotes the row ends at the first character that does not pass. -/
theorem exists_readRowsFrom_plain (hb : b ≠ .pair) (cells : List (List Char)) (cell : List Char)
    {cs : List Char} (hplain : needsQuotes d cs = false) (hnot : ¬∀ c ∈ cs, b.Passes c)
    (tail : List Char) :
    ∃ piece rest, piece.length < cs.length ∧
      readRowsFrom d.delimiter b ⟨.bare, cells, cell⟩ (cs ++ tail) =
        (cells ++ [cell ++ piece]) :: rest := by
  induction cs generalizing cell with
  | nil => exact absurd (List.forall_mem_nil _) hnot
  | cons c cs ih =>
    by_cases hc : b.Passes c
    · obtain ⟨hdelimiter, -, -, hcs⟩ := needsQuotes_cons_eq_false.1 hplain
      have hrest : ¬∀ c ∈ cs, b.Passes c := fun hall => hnot (List.forall_mem_cons.2 ⟨hc, hall⟩)
      obtain ⟨piece, rest, hlength, hread⟩ := ih (cell ++ [c]) hcs hrest
      refine ⟨c :: piece, rest, by simpa using hlength, ?_⟩
      have htakes := Takes.further cells cell hdelimiter hc (cs ++ tail)
      rw [List.singleton_append] at htakes
      rw [List.cons_append, htakes, hread, List.append_assoc, List.singleton_append]
    · obtain ⟨rest, hread⟩ := exists_readRowsFrom_of_endsAt (δ := d.delimiter)
        (p := ⟨.bare, cells, cell⟩) nofun (RowBreak.endsAt_of_not_passes hb hc) (cs ++ tail)
      refine ⟨[], rest, by simp, ?_⟩
      rw [List.cons_append, hread, List.append_nil]
      rfl

/-- **A cell that is not kept is split**: the row that is read ends inside it, so it is none that
has the cell in its place. -/
theorem exists_readRowsFrom_encodeCell (hb : b ≠ .pair) {start : Place}
    (hstart : start = .rowStart ∨ start = .cellStart) (cells : List (List Char)) {cell : List Char}
    (hnot : ¬d.Keeps b cell) (tail : List Char) :
    ∃ row rest, (∀ after, row ≠ cells ++ cell :: after) ∧
      readRowsFrom d.delimiter b ⟨start, cells, []⟩ (encodeCell d cell ++ tail) = row :: rest := by
  obtain ⟨hquotes, hsplit⟩ := not_or.1 hnot
  rw [encodeCell, if_neg hquotes]
  cases cell with
  | nil => exact absurd (List.forall_mem_nil _) hsplit
  | cons c cs =>
    by_cases hc : b.Passes c
    · obtain ⟨hdelimiter, hquote, -, hcs⟩ :=
        needsQuotes_cons_eq_false.1 (Bool.not_eq_true _ ▸ hquotes)
      have hrest : ¬∀ c ∈ cs, b.Passes c :=
        fun hall => hsplit (List.forall_mem_cons.2 ⟨hc, hall⟩)
      obtain ⟨piece, rest, hlength, hread⟩ :=
        exists_readRowsFrom_plain hb cells [c] hcs hrest tail
      refine ⟨cells ++ [[c] ++ piece], rest, fun after heq => ?_, ?_⟩
      · -- what is read of the cell is shorter than the cell
        obtain ⟨hcell, -⟩ := List.cons.inj (List.append_cancel_left heq)
        have hsame := congrArg List.length hcell
        rw [List.length_append, List.length_cons, List.length_cons, List.length_nil] at hsame
        omega
      · have htakes := Takes.first cells hstart hdelimiter hquote hc (cs ++ tail)
        rw [List.singleton_append] at htakes
        rw [List.cons_append, htakes, hread]
    · have hplace : start ≠ .quoted := by rcases hstart with rfl | rfl <;> decide
      obtain ⟨rest, hread⟩ := exists_readRowsFrom_of_endsAt (δ := d.delimiter)
        (p := ⟨start, cells, []⟩) hplace (RowBreak.endsAt_of_not_passes hb hc) (cs ++ tail)
      refine ⟨_, rest, fun after heq => ?_, hread⟩
      -- nothing is read of the cell, and no cell at all if it began the row
      rcases hstart with rfl | rfl
      · exact absurd heq.symm (by simp [Pending.row])
      · obtain ⟨hcell, -⟩ := List.cons.inj (List.append_cancel_left heq)
        cases hcell

section Rows

variable (h : d.IsFramedBy b) (hb : b ≠ .pair)

include h hb

/-- A row is read as another one if one of its later cells is not kept. -/
theorem exists_readRowsFrom_encodeCells {cells : List (List Char)}
    (hnot : ¬∀ cell ∈ cells, d.Keeps b cell) {p : Pending} (hp : p.place ≠ .quoted)
    (tail : List Char) :
    ∃ row rest, row ≠ p.cells ++ p.cell :: cells ∧
      readRowsFrom d.delimiter b p (encodeCells d cells ++ tail) = row :: rest := by
  induction cells generalizing p with
  | nil => exact absurd (List.forall_mem_nil _) hnot
  | cons cell cells ih =>
    have hstart := takes_delimiter h hp (encodeCell d cell ++ (encodeCells d cells ++ tail))
    rw [List.singleton_append] at hstart
    rw [encodeCells, List.flatMap_cons, ← encodeCells, List.append_assoc, List.cons_append, hstart]
    by_cases hkept : d.Keeps b cell
    · obtain ⟨place, hplace, -, hcell⟩ :=
        takes_encodeCell h (.inr rfl) (p.cells ++ [p.cell]) hkept
      have hrest : ¬∀ cell ∈ cells, d.Keeps b cell :=
        fun hall => hnot (List.forall_mem_cons.2 ⟨hkept, hall⟩)
      obtain ⟨row, rest, hrow, hread⟩ :=
        ih hrest (p := ⟨place, p.cells ++ [p.cell], cell⟩) hplace
      refine ⟨row, rest, ?_, by rw [hcell, hread]⟩
      rwa [List.append_assoc, List.singleton_append] at hrow
    · obtain ⟨row, rest, hrow, hread⟩ := exists_readRowsFrom_encodeCell hb (.inr rfl)
        (p.cells ++ [p.cell]) hkept (encodeCells d cells ++ tail)
      refine ⟨row, rest, ?_, hread⟩
      have hafter := hrow cells
      rwa [List.append_assoc, List.singleton_append] at hafter

/-- **A row with a cell that is not kept** is read as another row. -/
theorem exists_readRowsFrom_encodeRow {row : List (List Char)}
    (hnot : ¬∀ cell ∈ row, d.Keeps b cell) (tail : List Char) :
    ∃ row' rest, row' ≠ row ∧
      readRowsFrom d.delimiter b .fresh (encodeRow d row ++ tail) = row' :: rest := by
  unfold encodeRow
  split
  · exact absurd (List.forall_mem_nil _) hnot
  · -- an empty cell is kept
    exact absurd (by simp [Dialect.Keeps]) hnot
  · rename_i cell cells _
    rw [List.append_assoc]
    by_cases hkept : d.Keeps b cell
    · obtain ⟨place, hplace, -, hcell⟩ := takes_encodeCell h (.inl rfl) [] hkept
      have hrest : ¬∀ cell ∈ cells, d.Keeps b cell :=
        fun hall => hnot (List.forall_mem_cons.2 ⟨hkept, hall⟩)
      obtain ⟨row', rest, hrow, hread⟩ :=
        exists_readRowsFrom_encodeCells h hb hrest (p := ⟨place, [], cell⟩) hplace tail
      exact ⟨row', rest, hrow, (hcell _).trans hread⟩
    · obtain ⟨row', rest, hrow, hread⟩ := exists_readRowsFrom_encodeCell hb (.inl rfl) [] hkept
        (encodeCells d cells ++ tail)
      exact ⟨row', rest, hrow cells, hread⟩

/-! ## Rows -/

/-- **Which rows are read back**, the last of them without its terminator: those whose cells are all
kept. -/
theorem readRowsFrom_encodeRows_iff {last : List (List Char)} (hlast : last ≠ [])
    (rows : List (List (List Char))) :
    readRowsFrom d.delimiter b .fresh (encodeRows d rows ++ encodeRow d last) = rows ++ [last] ↔
      ∀ row ∈ rows ++ [last], ∀ cell ∈ row, d.Keeps b cell := by
  induction rows with
  | nil =>
    rw [encodeRows, List.flatMap_nil, List.nil_append, List.nil_append, List.forall_mem_singleton]
    constructor
    · -- a cell that is not kept leaves another row in the place of this one
      intro hread
      refine Classical.not_not.1 fun hnot => ?_
      obtain ⟨row, rest, hrow, hother⟩ := exists_readRowsFrom_encodeRow h hb hnot []
      rw [List.append_nil, hread] at hother
      exact hrow (List.cons.inj hother).1.symm
    · intro hkept
      obtain ⟨q, -, hrow, htakes⟩ := takes_encodeRow h hkept
      have hend : q.place ≠ .rowStart := by
        intro hplace
        rw [Pending.row, if_pos hplace] at hrow
        exact hlast hrow.symm
      have hread := htakes []
      rw [List.append_nil] at hread
      rw [hread, readRowsFrom, if_neg hend, hrow]
  | cons row rows ih =>
    rw [encodeRows, List.flatMap_cons, ← encodeRows, List.append_assoc, List.append_assoc,
      List.cons_append, List.forall_mem_cons, ← ih]
    by_cases hkept : ∀ cell ∈ row, d.Keeps b cell
    · -- the row is read back, and the reader is as fresh behind it as before
      obtain ⟨q, hq, hrow, htakes⟩ := takes_encodeRow h hkept
      rw [htakes, h.terminator q hq, hrow, List.cons.injEq, eq_self, true_and,
        and_iff_right hkept]
    · obtain ⟨row', rest, hrow, hread⟩ := exists_readRowsFrom_encodeRow h hb hkept
        (d.terminator ++ (encodeRows d rows ++ encodeRow d last))
      rw [hread, List.cons.injEq]
      simp [hrow, hkept]

end Rows

/-! ## Tabs -/

/-- A reader that ends rows at line feeds frames rows with tabs, but it keeps no cell without quotes
that holds a carriage return if it ends rows there as well. -/
theorem Dialect.tabs_isFramedBy {b : RowBreak} (hb : b.endsAt '\n' = true) :
    Dialect.tabs.IsFramedBy b where
  delimiter_ne_quote := by decide
  delimiter_passes := RowBreak.passes_of_ne (by decide) (by decide)
  quote_passes := RowBreak.passes_of_ne (by decide) (by decide)
  terminator := by
    intro p hp rest
    change readRowsFrom '\t' b p ('\n' :: rest) = _
    rw [readRowsFrom, if_pos ⟨hp, hb⟩]
    · rfl
    · intro _ hreturn
      cases hreturn

/-- A reader that ends rows at line feeds and nowhere else keeps all cells of rows with tabs. -/
theorem Dialect.tabs_isReadBy : Dialect.tabs.IsReadBy .lineFeed where
  toIsFramedBy := Dialect.tabs_isFramedBy rfl
  passes := by
    intro c hc
    have hn : c ≠ '\n' := by simpa [tabs] using hc
    exact ⟨by simpa [RowBreak.endsAt] using hn, fun _ => rfl⟩

end ParcelRecords.Delimited
