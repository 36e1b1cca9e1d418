import ParcelRecords.Proofs.Appraiser.TaxSection
import ParcelRecords.Proofs.Text.Pieces

/-!
# The property section row by row

Every row of a property section that shows the label of a field writes this field, whatever other
labels it shows. So a field is there if some row shows its label, and it is read from the last such
row in document order: an outer row that holds others comes before them, and gives way to the ones
inside. The fields of the property section and the values of the tax section have different names,
so that a page has the ones behind the others.

## Main definitions

* `Appraiser.IsTextBehind`, `Appraiser.IsTextOfFirst`: how a value is read from a row
* `Appraiser.PropertyRule`, `Appraiser.propertyRules`: the label of a field and where it is read
* `Appraiser.IsLastShowing`: the last row that shows a label

## Main results

* `Appraiser.isTextBehind_iff`, `Appraiser.isTextOfFirst_iff`: what is read from a row
* `Appraiser.lookup_reverse_flatMap_rowFields`: a field is read from the last row showing its label
* `Appraiser.entries_record?`: a page has the fields of its property section, then its tax values
* `Appraiser.property_fields_from_last_rows`: the record of a page
-/

namespace ParcelRecords.Appraiser

open Markup (Document Focus Node)

/-! ## Values in a row -/

section Value

variable {label text value : String} {names : List String} {row : Focus}

/-- A value is the trimmed text behind the first occurrence of a label. -/
def IsTextBehind (label text value : String) : Prop :=
  ∃ before after, Text.IsFirstBetween label.toList text.toList before after ∧
    value = Text.trim (String.ofList after)

/-- An element has all the classes. -/
def HasClasses (names : List String) (f : Focus) : Prop :=
  ∀ name ∈ names, name ∈ Selector.classes f.here

instance (names : List String) : DecidablePred (HasClasses names) :=
  fun _ => inferInstanceAs (Decidable (∀ _ ∈ _, _))

/-- A value is the trimmed text of the first element inside a row that has all the classes, or empty
if there is none. -/
def IsTextOfFirst (names : List String) (row : Focus) (value : String) : Prop :=
  value = ((row.elements.find? fun f => decide (HasClasses names f)).map
    (·.here.trimmedText)).getD ""

/-- **The text behind a label** that occurs is read, and no other value is. -/
theorem isTextBehind_iff (h : Text.occursIn label text = true) :
    IsTextBehind label text value ↔ value = textAfter label text := by
  obtain ⟨before, after, hfirst, hafter⟩ := Text.exists_afterFirst?_eq h
  have hread : textAfter label text = Text.trim (String.ofList after) := by
    rw [textAfter, hafter, Option.getD_some]
  rw [hread]
  constructor
  · rintro ⟨before', after', hfirst', rfl⟩
    rw [hfirst.after_eq hfirst']
  · intro heq
    exact ⟨before, after, hfirst, heq⟩

theorem allHold_hasClass (names : List String) (f : Focus) :
    Selector.allHold (names.map .hasClass) f = true ↔ HasClasses names f := by
  induction names with
  | nil => simp [Selector.allHold, HasClasses]
  | cons name names ih =>
    rw [List.map_cons, Selector.allHold, Bool.and_eq_true, ih, HasClasses, HasClasses,
      List.forall_mem_cons, Selector.Simple.holds, decide_eq_true_eq]

/-- A selector of classes finds the first element that has them. -/
theorem select?_of_classes {selector : String}
    (hselector : Selector.read? selector = some ⟨[.compound (names.map .hasClass)]⟩) (row : Focus) :
    row.select? selector = row.elements.find? fun f => decide (HasClasses names f) := by
  have hholds : (Selector.mk [.compound (names.map .hasClass)]).holds =
      fun f => decide (HasClasses names f) := by
    funext f
    rw [Selector.holds, Selector.anyHolds, Selector.anyHolds, Selector.Complex.holds,
      Bool.or_false, Bool.eq_iff_iff, allHold_hasClass, decide_eq_true_eq]
  rw [Focus.select?, Focus.selectAll, hselector]
  simp only [Selector.all, hholds, List.head?_filter]

/-- **The text of the first element** with the classes is read, and no other value is. -/
theorem isTextOfFirst_iff {selector : String}
    (hselector : Selector.read? selector = some ⟨[.compound (names.map .hasClass)]⟩) :
    IsTextOfFirst names row value ↔ value = firstText row selector := by
  rw [IsTextOfFirst, firstText, select?_of_classes hselector]

end Value

/-! ## Fields of a row -/

/-- How a field of the property section is read: its name, the label that a row has to show, and
which value the row then gives. -/
structure PropertyRule where
  name : String
  label : String
  Reads : Focus → String → Prop

/-- The rules of the property section. -/
def propertyRules : List PropertyRule :=
  [⟨"folio", "Folio:", fun row => IsTextBehind "Folio:" row.here.normalText⟩,
   ⟨"propertyAddress", "Property Address", IsTextOfFirst ["property-add"]⟩,
   ⟨"owner", "Owner", IsTextOfFirst ["pa-font-size-11"]⟩,
   ⟨"primaryLandUse", "Primary Land Use", IsTextOfFirst ["pt-0", "pb-0"]⟩]

/-- A row shows a label. -/
def Shows (label : String) (row : Focus) : Prop :=
  Text.occursIn label row.here.normalText = true

/-- A field is read by a rule: it has its name and label, and in a row that shows the label it has
the one value that the rule reads. -/
structure PropertyField.FollowsRule (field : PropertyField) (rule : PropertyRule) : Prop where
  name_eq : field.name = rule.name
  label_eq : field.label = rule.label
  reads_iff : ∀ row, Shows rule.label row → ∀ value, rule.Reads row value ↔ value = field.value row

/-- **The fields follow the rules**, one after the other. -/
theorem fields_follow_rules :
    List.Forall₂ PropertyField.FollowsRule propertyFieldList propertyRules := by
  refine .cons ?_ (.cons ?_ (.cons ?_ (.cons ?_ .nil)))
  · exact ⟨rfl, rfl, fun row hshows value => isTextBehind_iff hshows⟩
  · exact ⟨rfl, rfl, fun row _ value => isTextOfFirst_iff rfl⟩
  · exact ⟨rfl, rfl, fun row _ value => isTextOfFirst_iff rfl⟩
  · exact ⟨rfl, rfl, fun row _ value => isTextOfFirst_iff rfl⟩

theorem exists_field {rule : PropertyRule} (h : rule ∈ propertyRules) :
    ∃ field ∈ propertyFieldList, field.FollowsRule rule := by
  obtain ⟨i, hi, rfl⟩ := List.getElem_of_mem h
  have hlength := fields_follow_rules.length_eq
  exact ⟨propertyFieldList[i], List.getElem_mem _, fields_follow_rules.get (by omega) hi⟩

theorem exists_rule {field : PropertyField} (h : field ∈ propertyFieldList) :
    ∃ rule ∈ propertyRules, field.FollowsRule rule := by
  obtain ⟨i, hi, rfl⟩ := List.getElem_of_mem h
  have hlength := fields_follow_rules.length_eq
  exact ⟨propertyRules[i], List.getElem_mem _, fields_follow_rules.get hi (by omega)⟩

theorem nodup_propertyFieldNames : (propertyFieldList.map (·.name)).Nodup := by
  decide

section Row

variable {field : PropertyField} {row : Focus} {rows before after : List Focus}

theorem nodup_keys_rowFields (row : Focus) : ((rowFields row).map Prod.fst).Nodup := by
  rw [rowFields, List.map_map]
  exact (List.filter_sublist.map _).nodup nodup_propertyFieldNames

/-- **A row gives a field** exactly if it shows the label. -/
theorem mem_keys_rowFields (hfield : field ∈ propertyFieldList) :
    field.name ∈ (rowFields row).map Prod.fst ↔ Shows field.label row := by
  rw [rowFields, List.map_map, List.mem_map]
  constructor
  · rintro ⟨other, hother, hname⟩
    obtain ⟨hmem, hshows⟩ := List.mem_filter.1 hother
    have hsame : other = field :=
      List.inj_on_of_nodup_map nodup_propertyFieldNames hmem hfield hname
    exact hsame ▸ hshows
  · intro hshows
    exact ⟨field, List.mem_filter.2 ⟨hfield, hshows⟩, rfl⟩

/-- A row that shows the label gives the field its own value, whatever else it shows. -/
theorem lookup_reverse_rowFields (hfield : field ∈ propertyFieldList)
    (hshows : Shows field.label row) :
    (rowFields row).reverse.lookup field.name = some (.str (field.value row)) := by
  have hnodup := nodup_keys_rowFields row
  rw [OrderedMap.lookup_reverse_of_nodup hnodup, OrderedMap.lookup_eq_some_iff hnodup]
  exact List.mem_map_of_mem (List.mem_filter.2 ⟨hfield, hshows⟩)

/-! ## Fields of the section -/

/-- The last row that shows a label. -/
def IsLastShowing (label : String) (rows : List Focus) (row : Focus) : Prop :=
  ∃ before after, rows = before ++ row :: after ∧ Shows label row ∧ ∀ r ∈ after, ¬Shows label r

theorem isLastShowing_iff {label : String} :
    IsLastShowing label rows row ↔
      rows.reverse.find? (fun r => Text.occursIn label r.here.normalText) = some row := by
  rw [List.find?_eq_some_iff_append]
  constructor
  · rintro ⟨before, after, rfl, hshows, hafter⟩
    refine ⟨hshows, after.reverse, before.reverse, by simp, fun r hr => ?_⟩
    simpa [Shows] using hafter r (List.mem_reverse.1 hr)
  · rintro ⟨hshows, after, before, hsplit, hafter⟩
    refine ⟨before.reverse, after.reverse, ?_, hshows, fun r hr => ?_⟩
    · rw [← List.reverse_reverse rows, hsplit]
      simp
    · simpa [Shows] using hafter r (List.mem_reverse.1 hr)

/-- There is only one last row. -/
theorem IsLastShowing.unique {label : String} {other : Focus} (h : IsLastShowing label rows row)
    (hother : IsLastShowing label rows other) : row = other :=
  Option.some.inj ((isLastShowing_iff.1 h).symm.trans (isLastShowing_iff.1 hother))

/-- If some row shows a label, one is the last to do so. -/
theorem exists_isLastShowing {label : String} (h : ∃ row ∈ rows, Shows label row) :
    ∃ row, IsLastShowing label rows row := by
  obtain ⟨row, hrow, hshows⟩ := h
  have hfound : (rows.reverse.find? fun r => Text.occursIn label r.here.normalText).isSome := by
    rw [List.find?_isSome]
    exact ⟨row, List.mem_reverse.2 hrow, hshows⟩
  obtain ⟨last, hlast⟩ := Option.isSome_iff_exists.1 hfound
  exact ⟨last, isLastShowing_iff.2 hlast⟩

theorem mem_keys_flatMap_rowFields (hfield : field ∈ propertyFieldList) :
    field.name ∈ (rows.flatMap rowFields).map Prod.fst ↔ ∃ row ∈ rows, Shows field.label row := by
  rw [List.map_flatMap, List.mem_flatMap]
  simp only [mem_keys_rowFields hfield]

/-- No field has another name. -/
theorem exists_field_of_mem_keys {key : String}
    (h : key ∈ (rows.flatMap rowFields).map Prod.fst) :
    ∃ field ∈ propertyFieldList, field.name = key := by
  obtain ⟨entry, hentry, rfl⟩ := List.mem_map.1 h
  obtain ⟨row, -, hrow⟩ := List.mem_flatMap.1 hentry
  obtain ⟨field, hfield, rfl⟩ := List.mem_map.1 hrow
  exact ⟨field, (List.mem_filter.1 hfield).1, rfl⟩

/-- **A field is read from the last row** that shows its label. -/
theorem lookup_reverse_flatMap_rowFields (hfield : field ∈ propertyFieldList)
    (hlast : IsLastShowing field.label rows row) :
    (rows.flatMap rowFields).reverse.lookup field.name = some (.str (field.value row)) := by
  obtain ⟨before, after, rfl, hshows, hafter⟩ := hlast
  -- the rows behind the last one do not write the field
  have hbehind : (after.flatMap rowFields).reverse.lookup field.name = none := by
    apply OrderedMap.lookup_eq_none_of_not_mem
    rw [List.map_reverse, List.mem_reverse, mem_keys_flatMap_rowFields hfield]
    rintro ⟨r, hr, hshown⟩
    exact hafter r hr hshown
  rw [List.flatMap_append, List.flatMap_cons, List.reverse_append, List.reverse_append,
    List.lookup_append, List.lookup_append, hbehind, Option.none_or,
    lookup_reverse_rowFields hfield hshows, Option.some_or]

end Row

/-! ## Fields on a page -/

section Page

variable {d : Document} {record : Record}

/-- The rows of the first property section of a page, at any depth and in document order. -/
def propertyRows (d : Document) : List Focus :=
  ((section? d propertyName).map sectionRows).getD []

/-- The fields of the first property section of a page. -/
def propertyPart (d : Document) : Record :=
  .ofList (sectionEntries propertyFields (section? d propertyName))

/-- The values of the first tax section of a page. -/
def taxPart (d : Document) : Record :=
  .ofList (sectionEntries taxValues (section? d taxName))

theorem propertyPart_eq (d : Document) :
    propertyPart d = .ofList ((propertyRows d).flatMap rowFields) := by
  rw [propertyPart, propertyRows]
  cases section? d propertyName <;> rfl

/-- **Fields and values have different names**. -/
theorem name_not_mem_keys_taxPart {field : PropertyField} (hfield : field ∈ propertyFieldList) :
    field.name ∉ (taxPart d).keys := by
  rw [taxPart, OrderedMap.mem_keys_ofList]
  cases section? d taxName with
  | none => exact List.not_mem_nil
  | some s =>
    intro hmem
    obtain ⟨a, -, m, -, year, -, -, hname⟩ := mem_keys_taxRows.1 hmem
    exact name_ne_taxKey hfield a m.2 year hname

/-- The property section has no names but those of its fields. -/
theorem exists_field_of_mem_propertyPart {key : String} (h : key ∈ (propertyPart d).keys) :
    ∃ field ∈ propertyFieldList, field.name = key := by
  rw [propertyPart_eq, OrderedMap.mem_keys_ofList] at h
  exact exists_field_of_mem_keys h

theorem record?_eq_none_iff :
    record? d = none ↔ section? d propertyName = none ∧ section? d taxName = none := by
  rw [record?]
  cases section? d propertyName <;> cases section? d taxName <;> simp

theorem record?_eq_some (h : record? d = some record) :
    record = (propertyPart d).merge (taxPart d) := by
  rw [propertyPart, taxPart, ← OrderedMap.ofList_append]
  rw [record?] at h
  split at h
  · cases h
  · exact (Option.some.inj h).symm

theorem section?_eq_none_iff {name : String} : section? d name = none ↔
    ∀ f ∈ d.elements, f.name ≠ name := by
  rw [section?, List.head?_eq_none_iff, Focus.elementsNamed, List.filter_eq_nil_iff]
  simp only [decide_eq_true_eq]
  rfl

/-- **A page has the fields of its property section, then the values of its tax section**. -/
theorem entries_record? (h : record? d = some record) :
    record.entries = (propertyPart d).entries ++ (taxPart d).entries := by
  rw [record?_eq_some h]
  apply OrderedMap.entries_insertAll_of_disjoint _ (taxPart d).nodup_keys
  intro e he hmem
  obtain ⟨field, hfield, hname⟩ := exists_field_of_mem_propertyPart hmem
  have hkey : e.1 ∈ (taxPart d).keys := List.mem_map_of_mem he
  exact name_not_mem_keys_taxPart hfield (hname ▸ hkey)

/-- **A field of a page** is that of its property section. -/
theorem get?_record?_name {field : PropertyField} (h : record? d = some record)
    (hfield : field ∈ propertyFieldList) :
    record.get? field.name = ((propertyRows d).flatMap rowFields).reverse.lookup field.name := by
  have hnone := OrderedMap.get?_eq_none_iff.2 (name_not_mem_keys_taxPart (d := d) hfield)
  rw [record?_eq_some h, OrderedMap.get?_merge, hnone, Option.none_or, propertyPart_eq,
    OrderedMap.get?_ofList]

theorem name_mem_keys_record? {field : PropertyField} (h : record? d = some record)
    (hfield : field ∈ propertyFieldList) :
    field.name ∈ record.keys ↔ ∃ row ∈ propertyRows d, Shows field.label row := by
  rw [← mem_keys_flatMap_rowFields hfield, ← OrderedMap.mem_keys_ofList,
    OrderedMap.mem_keys_iff, OrderedMap.mem_keys_iff, get?_record?_name h hfield,
    OrderedMap.get?_ofList]

/-- **Property fields come from the last rows** that show their labels. A page has no record exactly
if it has neither of the two sections. Otherwise its record consists of the fields of the first
property section and the values of the first tax section behind them, which share no name. A field
is there exactly if a row of the section, at any depth, shows its label. Its value is then read from
the last such row alone, and is the only one that its rule reads there. -/
theorem property_fields_from_last_rows (d : Document) :
    (record? d = none ↔ ∀ f ∈ d.elements, f.name ≠ propertyName ∧ f.name ≠ taxName) ∧
    ∀ record, record? d = some record →
      record.entries = (propertyPart d).entries ++ (taxPart d).entries ∧
      (∀ key ∈ (propertyPart d).keys,
        key ∉ (taxPart d).keys ∧ ∃ rule ∈ propertyRules, rule.name = key) ∧
      ∀ rule ∈ propertyRules,
        (rule.name ∈ record.keys ↔ ∃ row ∈ propertyRows d, Shows rule.label row) ∧
        (rule.name ∈ record.keys → ∃ row value, IsLastShowing rule.label (propertyRows d) row ∧
          record.get? rule.name = some (.str value) ∧
          ∀ other, rule.Reads row other ↔ other = value) := by
  constructor
  · rw [record?_eq_none_iff, section?_eq_none_iff, section?_eq_none_iff, ← forall₂_and]
  · intro record hrecord
    refine ⟨entries_record? hrecord, fun key hkey => ?_, fun rule hrule => ?_⟩
    · obtain ⟨field, hfield, rfl⟩ := exists_field_of_mem_propertyPart hkey
      obtain ⟨rule, hrule, hfollows⟩ := exists_rule hfield
      exact ⟨name_not_mem_keys_taxPart hfield, rule, hrule, hfollows.name_eq.symm⟩
    · -- each rule is followed by one field of the section
      obtain ⟨field, hfield, hfollows⟩ := exists_field hrule
      have hkeys : rule.name ∈ record.keys ↔ ∃ row ∈ propertyRows d, Shows rule.label row := by
        rw [← hfollows.name_eq, ← hfollows.label_eq]
        exact name_mem_keys_record? hrecord hfield
      refine ⟨hkeys, fun hmem => ?_⟩
      obtain ⟨row, hlast⟩ := exists_isLastShowing (hkeys.1 hmem)
      have hshows : Shows rule.label row := by
        obtain ⟨-, -, -, hshows, -⟩ := hlast
        exact hshows
      refine ⟨row, field.value row, hlast, ?_, hfollows.reads_iff row hshows⟩
      rw [← hfollows.name_eq, get?_record?_name hrecord hfield]
      exact lookup_reverse_flatMap_rowFields hfield (hfollows.label_eq ▸ hlast)

/-- An outer row shows what the rows inside it show, which come later: the folio is read from the
inner row, behind its first label. The last row with an owner has no element for it. -/
theorem property_fields_from_last_rows_nested :
    let text (s : String) : Node := .text .ordinary s
    let row (children : List Node) : Node := .element ⟨"tr", .empty⟩ children
    let owner : Node := .element ⟨"b", .ofList [("class", "pa-font-size-11")]⟩ [text "DOE"]
    let d : Document := ⟨[.element ⟨propertyName, .empty⟩
      [row [text "Record ", row [text "Folio: 01 Folio: 02"], row [text "Owner", owner]],
        row [text "Owner"]]]⟩
    ∃ record, record? d = some record ∧ record.get? "folio" = some (.str "01 Folio: 02") ∧
      record.get? "owner" = some (.str "") := by
  intro text row owner d
  obtain ⟨outer, folio, first, last, hrows, houter, hfolio, hfirst, hlast, helements⟩ :
      ∃ outer folio first last, propertyRows d = [outer, folio, first, last] ∧
        outer.here.normalText = "Record Folio: 01 Folio: 02OwnerDOE" ∧
        folio.here.normalText = "Folio: 01 Folio: 02" ∧ first.here.normalText = "OwnerDOE" ∧
        last.here.normalText = "Owner" ∧ last.elements = [] := by
    refine ⟨_, _, _, _, rfl, ?_, ?_, ?_, ?_, rfl⟩
    all_goals decide +kernel
  obtain ⟨hnone, hsome⟩ := property_fields_from_last_rows d
  obtain ⟨record, hrecord⟩ : ∃ record, record? d = some record := ⟨_, rfl⟩
  obtain ⟨-, -, hrules⟩ := hsome record hrecord
  have hfolioLast : IsLastShowing "Folio:" (propertyRows d) folio := by
    refine ⟨[outer], [first, last], hrows, ?_, ?_⟩
    · rw [Shows, hfolio]
      decide
    · simp only [List.forall_mem_cons, Shows, hfirst, hlast]
      decide
  have hownerLast : IsLastShowing "Owner" (propertyRows d) last := by
    refine ⟨[outer, folio, first], [], hrows, ?_, by simp⟩
    rw [Shows, hlast]
    decide
  -- what the page gives for a field is what its rule reads in the last row
  have hread : ∀ rule ∈ propertyRules, ∀ r, IsLastShowing rule.label (propertyRows d) r →
      ∀ value, rule.Reads r value → record.get? rule.name = some (.str value) := by
    intro rule hrule r hr value hvalue
    obtain ⟨hkeys, hpresent⟩ := hrules rule hrule
    obtain ⟨before, after, hsplit, hshows, -⟩ := id hr
    have hmem : r ∈ propertyRows d := hsplit ▸ List.mem_append_right before List.mem_cons_self
    obtain ⟨shown, found, hshown, hget, hreads⟩ := hpresent (hkeys.2 ⟨r, hmem, hshows⟩)
    obtain rfl := hshown.unique hr
    rw [hget, (hreads value).1 hvalue]
  refine ⟨record, hrecord, ?_, ?_⟩
  · have hbehind : IsTextBehind "Folio:" folio.here.normalText "01 Folio: 02" := by
      rw [hfolio]
      exact ⟨[], " 01 Folio: 02".toList, ⟨by decide, fun _ _ _ => Nat.zero_le _⟩, by decide⟩
    exact hread propertyRules[0] (List.getElem_mem _) folio hfolioLast _ hbehind
  · have hempty : IsTextOfFirst ["pa-font-size-11"] last "" := by
      rw [IsTextOfFirst, helements]
      rfl
    exact hread propertyRules[2] (List.getElem_mem _) last hownerLast _ hempty

end Page

end ParcelRecords.Appraiser
