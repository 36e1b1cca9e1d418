import ParcelRecords.Proofs.Markup.Ancestors
import ParcelRecords.Table.Locator

/-!
# Which table is found by its texts

Of the tables that hold all required texts the least nested is taken, and of several the first. The
text of a table is a part of the text of every table around it. As long as the lowercase of a text
is made of the lowercase of its parts, a table around one that holds the texts holds them as well.
Then the least nested one has no table around it at all: on a page that nests tables for its layout,
the outermost table around the texts is found and never one inside it. Only a capital sigma has a
lowercase that depends on what stands around it.

## Main definitions

* `Focus.HoldsAll`: the text of an element holds all required texts, letter case aside

## Main results

* `Document.exists_of_leastNested?`: what is taken is least nested, and the first of such
* `Focus.HoldsAll.of_mem_ancestors`: without capital sigmas all elements around hold the texts
* `Document.outermost_table_found`: which table is found
-/

namespace ParcelRecords

/-! ## Lowercase of parts -/

namespace Text

theorem occursIn_iff_isInfix {part whole : String} :
    occursIn part whole = true ↔ part.toList <:+: whole.toList := by
  rw [occursIn_iff]
  constructor
  · rintro ⟨before, after, h⟩
    exact ⟨before, after, h.symm⟩
  · rintro ⟨before, after, h⟩
    exact ⟨before, after, h.symm⟩

/-- **The lowercase of a part** of a text without capital sigmas is a part of its lowercase. -/
theorem lowerChars_isInfix {as bs : List Char} (h : as <:+: bs) (hsigma : capitalSigma ∉ bs) :
    lowerChars as <:+: lowerChars bs := by
  obtain ⟨before, after, rfl⟩ := h
  simp only [List.mem_append, not_or] at hsigma
  obtain ⟨⟨hbefore, has⟩, hafter⟩ := hsigma
  have hfront : capitalSigma ∉ before ++ as := by simp [hbefore, has]
  exact ⟨lowerChars before, lowerChars after, by
    rw [lowerChars_append hfront hafter, lowerChars_append hbefore has]⟩

end Text

namespace Markup

/-! ## Elements that hold texts -/

namespace Focus

variable {parts : List String} {t a : Focus}

/-- The text of an element holds all parts, both sides in lowercase. -/
def HoldsAll (parts : List String) (t : Focus) : Prop :=
  ∀ part ∈ parts, (Text.lower part).toList <:+: (Text.lower t.here.text).toList

theorem containsAll_iff_holdsAll :
    Document.containsAll parts t.here.text = true ↔ t.HoldsAll parts := by
  rw [Document.containsAll, List.all_eq_true]
  exact forall₂_congr fun _ _ => Text.occursIn_iff_isInfix

instance : Decidable (t.HoldsAll parts) :=
  decidable_of_iff _ containsAll_iff_holdsAll

/-- **Elements around hold the texts as well**, if they count the same kinds of text and have no
capital sigma in theirs. -/
theorem HoldsAll.of_mem_ancestors (h : t.HoldsAll parts) (ha : a ∈ t.ancestors)
    (hkinds : Element.countsText a.name = Element.countsText t.name)
    (hsigma : Text.capitalSigma ∉ a.here.text.toList) : a.HoldsAll parts := by
  have htext : t.here.text.toList <:+: a.here.text.toList := by
    have hcounts : Element.countsText a.here.name = Element.countsText t.here.name := hkinds
    rw [Element.text, Element.text, hcounts]
    exact textWithin_isInfix_of_mem_ancestors _ ha
  have hlower : (Text.lower t.here.text).toList <:+: (Text.lower a.here.text).toList := by
    rw [Text.lower, Text.lower, String.toList_ofList, String.toList_ofList]
    exact Text.lowerChars_isInfix htext hsigma
  intro part hpart
  exact (h part hpart).trans hlower

end Focus

/-! ## The least nested table -/

namespace Document

variable {d : Document} {parts : List String} {t : Focus}

theorem leastNested?_eq_none_iff {fs : List Focus} : leastNested? fs = none ↔ fs = [] := by
  cases fs with
  | nil => exact iff_of_true rfl rfl
  | cons f rest =>
    rw [leastNested?]
    split
    · simp
    · split <;> simp

/-- **What is taken** is less nested than all before it and not more than all behind it. -/
theorem exists_of_leastNested? {fs : List Focus} (h : leastNested? fs = some t) :
    ∃ before after, fs = before ++ t :: after ∧
      (∀ u ∈ before, t.nestingLevel < u.nestingLevel) ∧
      ∀ u ∈ after, t.nestingLevel ≤ u.nestingLevel := by
  induction fs generalizing t with
  | nil => cases h
  | cons f rest ih =>
    rw [leastNested?] at h
    cases hrest : leastNested? rest with
    | none =>
      obtain rfl := leastNested?_eq_none_iff.1 hrest
      cases h
      exact ⟨[], [], rfl, by simp, by simp⟩
    | some g =>
      obtain ⟨before, after, rfl, hbefore, hafter⟩ := ih hrest
      rw [hrest] at h
      dsimp only at h
      split at h
      · -- the first element is not more nested than the one taken from the rest
        rename_i hle
        obtain rfl := Option.some.inj h
        refine ⟨[], before ++ g :: after, rfl, by simp, fun u hu => ?_⟩
        rcases List.mem_append.1 hu with hu | hu
        · exact Nat.le_trans hle (Nat.le_of_lt (hbefore u hu))
        · rcases List.mem_cons.1 hu with rfl | hu
          · exact hle
          · exact Nat.le_trans hle (hafter u hu)
      · rename_i hlt
        obtain rfl := Option.some.inj h
        refine ⟨f :: before, after, rfl, fun u hu => ?_, hafter⟩
        rcases List.mem_cons.1 hu with rfl | hu
        · exact Nat.lt_of_not_le hlt
        · exact hbefore u hu

/-- No table is found exactly if none holds the texts. -/
theorem tableWith?_eq_none_iff :
    d.tableWith? parts = none ↔ ∀ t ∈ d.focus.elementsNamed "table", ¬t.HoldsAll parts := by
  rw [tableWith?, leastNested?_eq_none_iff, tablesWith, List.filter_eq_nil_iff]
  exact forall₂_congr fun _ _ => not_congr Focus.containsAll_iff_holdsAll

/-- **The table found** holds the texts. Of the others that do, those before it have more tables
around them, and those behind it have not fewer. -/
theorem exists_of_tableWith? (h : d.tableWith? parts = some t) :
    t.HoldsAll parts ∧
      ∃ before after, d.focus.elementsNamed "table" = before ++ t :: after ∧
        (∀ u ∈ before, u.HoldsAll parts → t.tablesAround < u.tablesAround) ∧
        ∀ u ∈ after, u.HoldsAll parts → t.tablesAround ≤ u.tablesAround := by
  obtain ⟨matchesBefore, matchesAfter, hsplit, hbefore, hafter⟩ := exists_of_leastNested? h
  -- the split of the tables that hold the texts is one of all tables
  obtain ⟨front, back, htables, rfl, hback⟩ := List.filter_eq_append_iff.1 hsplit
  obtain ⟨others, behind, rfl, hothers, ht, rfl⟩ := List.filter_eq_cons_iff.1 hback
  refine ⟨Focus.containsAll_iff_holdsAll.1 ht, front ++ others, behind, ?_, ?_, ?_⟩
  · rw [htables, List.append_assoc]
  · intro u hu hholds
    rw [← Focus.nestingLevel_eq_tablesAround, ← Focus.nestingLevel_eq_tablesAround]
    rcases List.mem_append.1 hu with hu | hu
    · exact hbefore u (List.mem_filter.2 ⟨hu, Focus.containsAll_iff_holdsAll.2 hholds⟩)
    · exact absurd (Focus.containsAll_iff_holdsAll.2 hholds) (hothers u hu)
  · intro u hu hholds
    rw [← Focus.nestingLevel_eq_tablesAround, ← Focus.nestingLevel_eq_tablesAround]
    exact hafter u (List.mem_filter.2 ⟨hu, Focus.containsAll_iff_holdsAll.2 hholds⟩)

/-! ## Pages without capital sigmas -/

theorem mem_elementsNamed {g f : Focus} {name : String} :
    f ∈ g.elementsNamed name ↔ f ∈ g.elements ∧ f.name = name := by
  rw [Focus.elementsNamed, List.mem_filter, decide_eq_true_iff]

/-- A table around a table of the page is one of the tables of the page. -/
theorem mem_tables_of_mem_ancestors {a : Focus} (h : t ∈ d.focus.elementsNamed "table")
    (ha : a ∈ t.ancestors) (hname : a.name = "table") : a ∈ d.focus.elementsNamed "table" := by
  rw [mem_elementsNamed] at h ⊢
  refine ⟨?_, hname⟩
  rcases mem_elements_of_mem_ancestors h.1 ha with rfl | ha
  · -- the page itself is no table
    have hpage : pageName ≠ "table" := by decide
    exact absurd hname hpage
  · exact ha

/-- The text of a table is a part of the text of the page. -/
theorem text_isInfix_of_mem_tables (h : t ∈ d.focus.elementsNamed "table") :
    t.here.text.toList <:+: d.focus.here.text.toList := by
  obtain ⟨hmem, hname⟩ := mem_elementsNamed.1 h
  have hcounts : Element.countsText t.here.name = Element.countsText d.focus.here.name := by
    rw [show t.here.name = "table" from hname]
    rfl
  rw [Element.text, Element.text, hcounts]
  exact Focus.textWithin_isInfix_of_mem_ancestors _ (focus_mem_ancestors hmem)

section NoSigma

variable (hsigma : Text.capitalSigma ∉ d.focus.here.text.toList)

include hsigma

/-- **Tables around a table** hold the texts that it holds. -/
theorem holdsAll_of_mem_ancestors {a : Focus} (h : t ∈ d.focus.elementsNamed "table")
    (hholds : t.HoldsAll parts) (ha : a ∈ t.ancestors) (hname : a.name = "table") :
    a.HoldsAll parts := by
  have hmem := mem_tables_of_mem_ancestors h ha hname
  apply hholds.of_mem_ancestors ha
  · rw [hname, (mem_elementsNamed.1 h).2]
  · exact fun hin => hsigma ((text_isInfix_of_mem_tables hmem).subset hin)

/-- **No table inside a table is found**. -/
theorem tablesAround_eq_zero (h : d.tableWith? parts = some t) : t.tablesAround = 0 := by
  obtain ⟨hholds, before, after, hsplit, hbefore, hafter⟩ := exists_of_tableWith? h
  have ht : t ∈ d.focus.elementsNamed "table" := by
    rw [hsplit]
    exact List.mem_append_right before List.mem_cons_self
  apply Nat.eq_zero_of_not_pos
  intro hpos
  -- a table around the one that is found would have been taken instead of it
  obtain ⟨a, ha, hname⟩ := List.countP_pos_iff.1 hpos
  have hname : a.name = "table" := by simpa using hname
  have hlt := Focus.tablesAround_lt_of_mem_ancestors ha hname
  have haround := holdsAll_of_mem_ancestors hsigma ht hholds ha hname
  have hmem := mem_tables_of_mem_ancestors ht ha hname
  rw [hsplit] at hmem
  rcases List.mem_append.1 hmem with hmem | hmem
  · exact absurd (hbefore a hmem haround) (by omega)
  · rcases List.mem_cons.1 hmem with rfl | hmem
    · exact absurd hlt (Nat.lt_irrefl _)
    · exact absurd (hafter a hmem haround) (by omega)

/-- The table found is the first one around all texts that is inside no table. -/
theorem tableWith?_eq_find? : d.tableWith? parts =
    (d.focus.elementsNamed "table").find? fun t => t.tablesAround = 0 ∧ t.HoldsAll parts := by
  cases h : d.tableWith? parts with
  | none =>
    symm
    rw [List.find?_eq_none]
    intro u hu hfound
    exact tableWith?_eq_none_iff.1 h u hu (of_decide_eq_true hfound).2
  | some t =>
    have hzero := tablesAround_eq_zero hsigma h
    obtain ⟨hholds, before, after, hsplit, hbefore, -⟩ := exists_of_tableWith? h
    symm
    rw [List.find?_eq_some_iff_append]
    refine ⟨decide_eq_true ⟨hzero, hholds⟩, before, after, hsplit, fun u hu => ?_⟩
    -- what stands before it and holds the texts is inside a table
    have hnot : ¬(u.tablesAround = 0 ∧ u.HoldsAll parts) := by
      rintro ⟨hu₀, huholds⟩
      have hlt := hbefore u hu huholds
      omega
    rw [decide_eq_false hnot]
    rfl

end NoSigma

/-! ## Which table is found -/

/-- **The table found by its texts**. There is none exactly if no table holds all of them. The table
found holds them; of the others that do, none has fewer tables around it, and none before it has as
many. On a page without capital sigmas a table around one that holds the texts holds them as well.
The table found is then the first that holds them and is inside no table. -/
theorem outermost_table_found (d : Document) (parts : List String) :
    (d.tableWith? parts = none ↔ ∀ t ∈ d.focus.elementsNamed "table", ¬t.HoldsAll parts) ∧
    (∀ t, d.tableWith? parts = some t → t.HoldsAll parts ∧
      ∃ before after, d.focus.elementsNamed "table" = before ++ t :: after ∧
        (∀ u ∈ before, u.HoldsAll parts → t.tablesAround < u.tablesAround) ∧
        ∀ u ∈ after, u.HoldsAll parts → t.tablesAround ≤ u.tablesAround) ∧
    (Text.capitalSigma ∉ d.focus.here.text.toList →
      (∀ t ∈ d.focus.elementsNamed "table", t.HoldsAll parts → ∀ a ∈ t.ancestors,
        a.name = "table" → a ∈ d.focus.elementsNamed "table" ∧ a.HoldsAll parts) ∧
      d.tableWith? parts =
        ((d.focus.elementsNamed "table").find? fun t =>
          t.tablesAround = 0 ∧ t.HoldsAll parts) ∧
      ∀ t, d.tableWith? parts = some t → t.tablesAround = 0) := by
  refine ⟨tableWith?_eq_none_iff, fun t h => exists_of_tableWith? h, fun hsigma => ⟨?_, ?_, ?_⟩⟩
  · intro t ht hholds a ha hname
    exact ⟨mem_tables_of_mem_ancestors ht ha hname,
      holdsAll_of_mem_ancestors hsigma ht hholds ha hname⟩
  · exact tableWith?_eq_find? hsigma
  · exact fun t h => tablesAround_eq_zero hsigma h

/-- A layout table around the table with the wanted text: both hold it, and the one around is
found. -/
theorem outermost_table_found_layout :
    let inner : Focus := ⟨⟨⟨"table", .empty⟩, [.text .ordinary "Owner"]⟩,
      [⟨⟨"table", .empty⟩, [.text .ordinary "Site"], []⟩, ⟨⟨pageName, .empty⟩, [], []⟩]⟩
    let d : Document := ⟨[.element ⟨"table", .empty⟩
      [.text .ordinary "Site", .element ⟨"table", .empty⟩ [.text .ordinary "Owner"]]]⟩
    inner ∈ d.focus.elementsNamed "table" ∧ inner.HoldsAll ["OWNER"] ∧ inner.tablesAround = 1 ∧
      Text.capitalSigma ∉ d.focus.here.text.toList ∧
      ∃ t, d.tableWith? ["OWNER"] = some t ∧ t.tablesAround = 0 := by
  intro inner d
  obtain ⟨hnone, -, hplain⟩ := outermost_table_found d ["OWNER"]
  have hmem : inner ∈ d.focus.elementsNamed "table" := List.mem_cons_of_mem _ List.mem_cons_self
  have hholds : inner.HoldsAll ["OWNER"] := by decide +kernel
  have hsigma : Text.capitalSigma ∉ d.focus.here.text.toList := by decide +kernel
  refine ⟨hmem, hholds, rfl, hsigma, ?_⟩
  cases h : d.tableWith? ["OWNER"] with
  | none => exact absurd hholds (hnone.1 h inner hmem)
  | some t => exact ⟨t, rfl, (hplain hsigma).2.2 t h⟩

end Document

end Markup

end ParcelRecords
