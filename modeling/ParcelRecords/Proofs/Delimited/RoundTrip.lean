import ParcelRecords.Delimited.Reader

/-!
# Reading rows back

A reader that agrees with a dialect on what ends a row reads every written row as it was, and then
stands at the beginning of a row again, so that what follows is read as if it stood alone. A cell
leads it astray only if it stands without quotes and holds a character that ends a row for the
reader, though not for the dialect.

## Main definitions

* `RowBreak.Passes`: a character that ends no row
* `Takes`: characters that take the reader from one place to another, whatever follows
* `Dialect.IsFramedBy`: a dialect whose rows end where the reader ends them
* `Dialect.Keeps`: a cell that the reader does not split
* `Dialect.IsReadBy`: a dialect that keeps all cells

## Main results

* `takes_encodeCell`, `takes_encodeRow`: what the reader holds after a cell and after a row
* `readRowsFrom_encodeRows`: written rows are read back, whatever follows
* `decode_encode`: the same for text
-/

namespace ParcelRecords.Delimited

/-! ## Steps of the reader -/

/-- Outside quotes the character neither ends a row nor begins a row break. -/
def RowBreak.Passes (b : RowBreak) (c : Char) : Prop :=
  b.endsAt c = false ∧ (c = '\r' → b.joinsPair = false)

/-- Only a carriage return and a line feed can end a row. -/
theorem RowBreak.passes_of_ne {b : RowBreak} {c : Char} (hr : c ≠ '\r') (hn : c ≠ '\n') :
    b.Passes c := by
  refine ⟨?_, fun heq => absurd heq hr⟩
  cases b <;> simp [endsAt, hr, hn]

/-- The characters `cs` take the reader from `p` to `q`, whatever follows them. -/
def Takes (δ : Char) (b : RowBreak) (p : Pending) (cs : List Char) (q : Pending) : Prop :=
  ∀ rest, readRowsFrom δ b p (cs ++ rest) = readRowsFrom δ b q rest

section Takes

variable {δ : Char} {b : RowBreak} {p q r : Pending}

theorem Takes.nil : Takes δ b p [] p :=
  fun _ => rfl

theorem Takes.trans {cs ds : List Char} (h : Takes δ b p cs q) (h' : Takes δ b q ds r) :
    Takes δ b p (cs ++ ds) r := by
  intro rest
  rw [List.append_assoc, h, h']

/-- Inside quotes every character is a step, outside them every one that ends no row. -/
theorem Takes.step {c : Char} (h : p.place = .quoted ∨ b.Passes c) :
    Takes δ b p [c] (p.step δ c) := by
  have hends : ¬(p.place ≠ .quoted ∧ b.endsAt c = true) := by
    rintro ⟨hplace, hends⟩
    rcases h with hquoted | hpasses
    · exact hplace hquoted
    · rw [hpasses.1] at hends
      cases hends
  intro rest
  rw [List.singleton_append, readRowsFrom.eq_def]
  split
  · rename_i heq
    cases heq
  -- a carriage return before a line feed, the one place where the reader looks ahead
  · rename_i heq
    obtain ⟨rfl, rfl⟩ := List.cons.inj heq
    have hpair : ¬(p.place ≠ .quoted ∧ b.joinsPair = true) := by
      rintro ⟨hplace, hjoins⟩
      rcases h with hquoted | hpasses
      · exact hplace hquoted
      · rw [hpasses.2 rfl] at hjoins
        cases hjoins
    rw [if_neg hpair, if_neg hends]
  · rename_i heq
    obtain ⟨rfl, rfl⟩ := List.cons.inj heq
    rw [if_neg hends]

theorem Takes.cons {c : Char} {cs : List Char} (h : p.place = .quoted ∨ b.Passes c)
    (h' : Takes δ b (p.step δ c) cs q) : Takes δ b p (c :: cs) q :=
  (Takes.step h).trans h'

variable {c : Char} (cells : List (List Char))

/-- A character that is neither delimiter nor quote begins a cell without quotes. -/
theorem Takes.first {start : Place} (hstart : start = .rowStart ∨ start = .cellStart)
    (hδ : c ≠ δ) (hquote : c ≠ quote) (hc : b.Passes c) :
    Takes δ b ⟨start, cells, []⟩ [c] ⟨.bare, cells, [c]⟩ := by
  have hstep : Pending.step δ ⟨start, cells, []⟩ c = ⟨.bare, cells, [c]⟩ := by
    rcases hstart with rfl | rfl <;> simp [Pending.step, hquote, hδ]
  rw [← hstep]
  exact Takes.step (.inr hc)

/-- A character that is no delimiter continues a cell without quotes. -/
theorem Takes.further (cell : List Char) (hδ : c ≠ δ) (hc : b.Passes c) :
    Takes δ b ⟨.bare, cells, cell⟩ [c] ⟨.bare, cells, cell ++ [c]⟩ := by
  have hstep : Pending.step δ ⟨.bare, cells, cell⟩ c = ⟨.bare, cells, cell ++ [c]⟩ := by
    simp [Pending.step, hδ]
  rw [← hstep]
  exact Takes.step (.inr hc)

end Takes

/-! ## Cells -/

/-- The rows of the dialect end where the reader ends them, and neither the delimiter nor a quote
ends one. -/
structure Dialect.IsFramedBy (d : Dialect) (b : RowBreak) : Prop where
  delimiter_ne_quote : d.delimiter ≠ quote
  delimiter_passes : b.Passes d.delimiter
  quote_passes : b.Passes quote
  terminator : ∀ p : Pending, p.place ≠ .quoted → ∀ rest,
    readRowsFrom d.delimiter b p (d.terminator ++ rest) =
      p.row :: readRowsFrom d.delimiter b .fresh rest

/-- The cell stands in quotes, or nothing in it ends a row. -/
def Dialect.Keeps (d : Dialect) (b : RowBreak) (cell : List Char) : Prop :=
  needsQuotes d cell = true ∨ ∀ c ∈ cell, b.Passes c

/-- Nothing ends a row that may stand outside quotes. -/
structure Dialect.IsReadBy (d : Dialect) (b : RowBreak) : Prop extends d.IsFramedBy b where
  passes : ∀ c ∉ d.terminator, b.Passes c

theorem needsQuotes_cons_eq_false {d : Dialect} {c : Char} {cs : List Char} :
    needsQuotes d (c :: cs) = false ↔
      c ≠ d.delimiter ∧ c ≠ quote ∧ c ∉ d.terminator ∧ needsQuotes d cs = false := by
  simp [needsQuotes, and_assoc]

/-- A dialect that is read keeps every cell. -/
theorem Dialect.IsReadBy.keeps {d : Dialect} {b : RowBreak} (h : d.IsReadBy b) (cell : List Char) :
    d.Keeps b cell := by
  by_cases hquotes : needsQuotes d cell = true
  · exact .inl hquotes
  · refine .inr fun c hc => h.passes c fun hterminator => hquotes ?_
    rw [needsQuotes, List.any_eq_true]
    exact ⟨c, hc, by simp [hterminator]⟩

section Reading

variable {d : Dialect} {b : RowBreak} (h : d.IsFramedBy b)
include h

/-- Inside quotes a doubled text is read as the text. -/
theorem takes_doubleQuotes (cells : List (List Char)) (cell cs : List Char) :
    Takes d.delimiter b ⟨.quoted, cells, cell⟩ (doubleQuotes cs) ⟨.quoted, cells, cell ++ cs⟩ := by
  induction cs generalizing cell with
  | nil =>
    rw [List.append_nil]
    exact Takes.nil
  | cons c cs ih =>
    have hrest := ih (cell ++ [c])
    rw [List.append_assoc, List.singleton_append] at hrest
    rw [doubleQuotes, List.flatMap_cons]
    by_cases hc : c = quote
    · subst hc
      -- the first quote may close the cell, the second shows that it does not
      have hfirst : Pending.step d.delimiter ⟨.quoted, cells, cell⟩ quote =
          ⟨.closing, cells, cell⟩ := rfl
      have hsecond : Pending.step d.delimiter ⟨.closing, cells, cell⟩ quote =
          ⟨.quoted, cells, cell ++ [quote]⟩ := rfl
      rw [if_pos rfl]
      refine Takes.cons (.inl rfl) ?_
      rw [hfirst]
      refine Takes.cons (.inr h.quote_passes) ?_
      rw [hsecond]
      exact hrest
    · have hstep : Pending.step d.delimiter ⟨.quoted, cells, cell⟩ c =
          ⟨.quoted, cells, cell ++ [c]⟩ := by
        simp [Pending.step, hc]
      rw [if_neg hc]
      refine Takes.cons (.inl rfl) ?_
      rw [hstep]
      exact hrest

omit h in
/-- A cell that needs no quotes, and does not end the row, is read as it stands. -/
theorem takes_plain (cells : List (List Char)) (cell : List Char) {cs : List Char}
    (hplain : needsQuotes d cs = false) (hpasses : ∀ c ∈ cs, b.Passes c) :
    Takes d.delimiter b ⟨.bare, cells, cell⟩ cs ⟨.bare, cells, cell ++ cs⟩ := by
  induction cs generalizing cell with
  | nil =>
    rw [List.append_nil]
    exact Takes.nil
  | cons c cs ih =>
    obtain ⟨hdelimiter, -, -, hcs⟩ := needsQuotes_cons_eq_false.1 hplain
    obtain ⟨hc, hpasses⟩ := List.forall_mem_cons.1 hpasses
    have hrest := ih (cell ++ [c]) hcs hpasses
    rw [List.append_assoc, List.singleton_append] at hrest
    exact (Takes.further cells cell hdelimiter hc).trans hrest

/-- **A written cell** that is kept is read as it was. Where it began the row and is empty the
reader still stands at the beginning of the row. -/
theorem takes_encodeCell {start : Place} (hstart : start = .rowStart ∨ start = .cellStart)
    (cells : List (List Char)) {cell : List Char} (hkept : d.Keeps b cell) :
    ∃ place, place ≠ .quoted ∧ (place = .rowStart → start = .rowStart ∧ cell = []) ∧
      Takes d.delimiter b ⟨start, cells, []⟩ (encodeCell d cell) ⟨place, cells, cell⟩ := by
  by_cases hquotes : needsQuotes d cell = true
  · have hopen : Pending.step d.delimiter ⟨start, cells, []⟩ quote = ⟨.quoted, cells, []⟩ := by
      rcases hstart with rfl | rfl <;> rfl
    have hclose : Takes d.delimiter b ⟨.quoted, cells, cell⟩ [quote] ⟨.closing, cells, cell⟩ :=
      Takes.step (.inl rfl)
    have hinside := takes_doubleQuotes h cells [] cell
    refine ⟨.closing, by decide, nofun, ?_⟩
    rw [encodeCell, if_pos hquotes, List.cons_append]
    refine Takes.cons (.inr h.quote_passes) ?_
    rw [hopen]
    exact hinside.trans hclose
  · rw [encodeCell, if_neg hquotes]
    cases cell with
    | nil =>
      refine ⟨start, ?_, fun hplace => ⟨hplace, rfl⟩, Takes.nil⟩
      rcases hstart with rfl | rfl <;> decide
    | cons c cs =>
      obtain ⟨hdelimiter, hquote, -, hcs⟩ :=
        needsQuotes_cons_eq_false.1 (Bool.not_eq_true _ ▸ hquotes)
      obtain ⟨hc, hpasses⟩ := List.forall_mem_cons.1 (hkept.resolve_left hquotes)
      have hrest := takes_plain (d := d) cells [c] hcs hpasses
      exact ⟨.bare, by decide, nofun, (Takes.first cells hstart hdelimiter hquote hc).trans hrest⟩

/-- Outside quotes a delimiter finishes the cell. -/
theorem takes_delimiter {p : Pending} (hp : p.place ≠ .quoted) :
    Takes d.delimiter b p [d.delimiter] ⟨.cellStart, p.cells ++ [p.cell], []⟩ := by
  have hstep : p.step d.delimiter d.delimiter = ⟨.cellStart, p.cells ++ [p.cell], []⟩ := by
    obtain ⟨place, cells, cell⟩ := p
    cases place with
    | quoted => exact absurd rfl hp
    | rowStart => simp [Pending.step, h.delimiter_ne_quote]
    | cellStart => simp [Pending.step, h.delimiter_ne_quote]
    | bare => simp [Pending.step]
    | closing => simp [Pending.step, h.delimiter_ne_quote]
  rw [← hstep]
  exact Takes.step (.inr h.delimiter_passes)

/-- Further cells are read behind the one under way. -/
theorem takes_encodeCells {cells : List (List Char)} (hkept : ∀ cell ∈ cells, d.Keeps b cell)
    {p : Pending} (hp : p.place ≠ .quoted) :
    ∃ q : Pending, q.place ≠ .quoted ∧ (q.place = .rowStart → p.place = .rowStart ∧ cells = []) ∧
      q.cells ++ [q.cell] = p.cells ++ [p.cell] ++ cells ∧
      Takes d.delimiter b p (encodeCells d cells) q := by
  induction cells generalizing p with
  | nil => exact ⟨p, hp, fun hplace => ⟨hplace, rfl⟩, by rw [List.append_nil], Takes.nil⟩
  | cons cell cells ih =>
    obtain ⟨hkept, hrest⟩ := List.forall_mem_cons.1 hkept
    obtain ⟨place, hplace, hstart, hcell⟩ :=
      takes_encodeCell h (.inr rfl) (p.cells ++ [p.cell]) hkept
    obtain ⟨q, hq, hqstart, hqcells, hcells⟩ :=
      ih hrest (p := ⟨place, p.cells ++ [p.cell], cell⟩) hplace
    -- a later cell begins behind a delimiter, never at the beginning of a row
    have hnot : q.place ≠ .rowStart := by
      intro hrow
      cases (hstart (hqstart hrow).1).1
    refine ⟨q, hq, fun hrow => absurd hrow hnot, ?_, ?_⟩
    · rw [hqcells, List.append_assoc, List.singleton_append]
    · rw [encodeCells, List.flatMap_cons, ← List.singleton_append, List.append_assoc]
      exact (takes_delimiter h hp).trans (hcell.trans hcells)

/-! ## Rows -/

/-- **A written row** whose cells are kept is held as it was when the reader comes to its end. -/
theorem takes_encodeRow {row : List (List Char)} (hkept : ∀ cell ∈ row, d.Keeps b cell) :
    ∃ q : Pending, q.place ≠ .quoted ∧ q.row = row ∧
      Takes d.delimiter b .fresh (encodeRow d row) q := by
  unfold encodeRow
  split
  · exact ⟨.fresh, by decide, rfl, Takes.nil⟩
  · have hopen : Takes d.delimiter b .fresh [quote] ⟨.quoted, [], []⟩ :=
      Takes.step (.inr h.quote_passes)
    have hclose : Takes d.delimiter b ⟨.quoted, [], []⟩ [quote] ⟨.closing, [], []⟩ :=
      Takes.step (.inl rfl)
    exact ⟨⟨.closing, [], []⟩, by decide, rfl, hopen.trans hclose⟩
  · rename_i cell cells hnot
    obtain ⟨hfirst, hrest⟩ := List.forall_mem_cons.1 hkept
    obtain ⟨place, hplace, hstart, hcell⟩ := takes_encodeCell h (.inl rfl) [] hfirst
    obtain ⟨q, hq, hqstart, hqcells, hcells⟩ :=
      takes_encodeCells h hrest (p := ⟨place, [], cell⟩) hplace
    -- only a row of one empty cell leaves the reader at the beginning, and it stands in quotes
    have hrow : q.place ≠ .rowStart := by
      intro hrow
      obtain ⟨hp, rfl⟩ := hqstart hrow
      obtain ⟨-, rfl⟩ := hstart hp
      exact hnot rfl rfl
    refine ⟨q, hq, ?_, hcell.trans hcells⟩
    rw [Pending.row, if_neg hrow, hqcells]
    rfl

/-- **Written rows are read back** if their cells are kept, and what follows is read as if it stood
alone. -/
theorem readRowsFrom_encodeRows {rows : List (List (List Char))}
    (hkept : ∀ row ∈ rows, ∀ cell ∈ row, d.Keeps b cell) (rest : List Char) :
    readRowsFrom d.delimiter b .fresh (encodeRows d rows ++ rest) =
      rows ++ readRowsFrom d.delimiter b .fresh rest := by
  induction rows with
  | nil => rfl
  | cons row rows ih =>
    obtain ⟨hfirst, hrest⟩ := List.forall_mem_cons.1 hkept
    obtain ⟨q, hq, hrow, htakes⟩ := takes_encodeRow h hfirst
    rw [encodeRows, List.flatMap_cons, ← encodeRows, List.append_assoc, List.append_assoc, htakes,
      h.terminator q hq, ih hrest, hrow, List.cons_append]

end Reading

/-- Rows of text cells are read exactly if their characters are. -/
theorem decode_eq_iff {δ : Char} {b : RowBreak} {s : String} {rows : List (List String)} :
    decode δ b s = rows ↔ readRows δ b s.toList = rows.map (·.map String.toList) := by
  rw [decode]
  constructor
  · rintro rfl
    simp [Function.comp_def]
  · intro hread
    simp [hread, Function.comp_def]

/-- **Written text is read back**. -/
theorem decode_encode {d : Dialect} {b : RowBreak} (h : d.IsReadBy b) (rows : List (List String)) :
    decode d.delimiter b (encode d rows) = rows := by
  have hread := readRowsFrom_encodeRows h.toIsFramedBy
    (fun row (_ : row ∈ rows.map (·.map String.toList)) cell _ => h.keeps cell) []
  rw [List.append_nil, show readRowsFrom d.delimiter b .fresh [] = [] from rfl,
    List.append_nil] at hread
  rw [decode_eq_iff, readRows, encode, String.toList_ofList, hread]

example : decode ',' .pair "\"a,b\",\"\"\"\"\r\n\r\n\"\"\r\n" = [["a,b", "\""], [], [""]] := by
  decide

/-- Text is written row by row. -/
theorem encode_append (d : Dialect) (rows rows' : List (List String)) :
    encode d (rows ++ rows') = encode d rows ++ encode d rows' := by
  rw [encode, encode, encode, List.map_append, encodeRows, List.flatMap_append,
    String.ofList_append]
  rfl

/-! ## Commas -/

/-- A reader that ends rows at a carriage return with a line feed reads rows with commas. -/
theorem Dialect.commas_isReadBy {b : RowBreak} (hb : b.joinsPair = true) :
    Dialect.commas.IsReadBy b where
  delimiter_ne_quote := by decide
  delimiter_passes := RowBreak.passes_of_ne (by decide) (by decide)
  quote_passes := RowBreak.passes_of_ne (by decide) (by decide)
  passes := by
    intro c hc
    obtain ⟨hr, hn⟩ : c ≠ '\r' ∧ c ≠ '\n' := by
      simpa [commas] using hc
    exact RowBreak.passes_of_ne hr hn
  terminator := by
    intro p hp rest
    change readRowsFrom ',' b p ('\r' :: '\n' :: rest) = _
    rw [readRowsFrom, if_pos ⟨hp, hb⟩]
    rfl

end ParcelRecords.Delimited
