import Mathlib.Data.Nat.Find
import ParcelRecords.Appraiser.Page
import ParcelRecords.Proofs.OrderedMap.LastWrite

/-!
# The tax section row by row

The rows of a tax section are read in document order, and what a row gives depends on the authority
named last before it. So the section is a list of pieces, one for each row, in which every piece is
known from its row and the rows before. A value is written under the authority, the metric and the
year; these names are told apart by how they begin, so that a value is only ever replaced by one of
the same authority, metric and year.

## Main definitions

* `Appraiser.taxKey`: the name of a tax value
* `Appraiser.lastAuthority?`: the authority named last by some rows
* `Appraiser.IsValueRow`, `Appraiser.IsLastValueRow`: the rows that give values of a metric under an
  authority, and the last of them

## Main results

* `Appraiser.taxKey_inj`: a name of a tax value tells the authority, the metric and the year
* `Appraiser.taxRows_eq`: the section is one piece for each row
* `Appraiser.mem_keys_taxRows`, `Appraiser.lookup_reverse_taxRows`: which names a section has, and
  where the value of a name is read
* `Appraiser.tax_values_attributed`: tax values are those of their authority, metric and year
-/

namespace ParcelRecords.Appraiser

open Markup (Document Focus Node)

/-! ## Names of tax values -/

/-- How the name of a tax value begins. -/
def taxPrefix (authority metric : String) : String :=
  authorityKey authority ++ "_" ++ metric ++ "_"

/-- The name of a tax value. -/
def taxKey (authority metric year : String) : String :=
  taxPrefix authority metric ++ year

/-- No two names of different authorities or metrics begin alike. -/
theorem taxPrefix_isPrefix : ∀ a ∈ authorities, ∀ m ∈ metrics, ∀ b ∈ authorities, ∀ n ∈ metrics,
    (taxPrefix a m.2).toList <+: (taxPrefix b n.2).toList → a = b ∧ m = n := by
  decide +kernel

/-- **A name tells** the authority, the metric and the year, whatever the text of the year. -/
theorem taxKey_inj {a b year other : String} {m n : String × String} (ha : a ∈ authorities)
    (hb : b ∈ authorities) (hm : m ∈ metrics) (hn : n ∈ metrics) :
    taxKey a m.2 year = taxKey b n.2 other ↔ a = b ∧ m = n ∧ year = other := by
  constructor
  · intro h
    have hchars : (taxPrefix a m.2).toList ++ year.toList =
        (taxPrefix b n.2).toList ++ other.toList := by
      simpa [taxKey] using congrArg String.toList h
    have hleft : (taxPrefix a m.2).toList <+: (taxPrefix a m.2).toList ++ year.toList :=
      List.prefix_append _ _
    have hright : (taxPrefix b n.2).toList <+: (taxPrefix a m.2).toList ++ year.toList := by
      rw [hchars]
      exact List.prefix_append _ _
    -- of two beginnings of one text the shorter one begins the longer one
    have hsame : a = b ∧ m = n := by
      rcases List.prefix_or_prefix_of_prefix hleft hright with hprefix | hprefix
      · exact taxPrefix_isPrefix a ha m hm b hb n hn hprefix
      · obtain ⟨rfl, rfl⟩ := taxPrefix_isPrefix b hb n hn a ha m hm hprefix
        exact ⟨rfl, rfl⟩
    obtain ⟨rfl, rfl⟩ := hsame
    exact ⟨rfl, rfl, String.toList_inj.1 (List.append_cancel_left hchars)⟩
  · rintro ⟨rfl, rfl, rfl⟩
    rfl

/-! ## Values of one row -/

section Row

variable {years values : List String} {authority year : String} {row : Focus}

theorem map_fst_yearValues (authority metric : String) (years values : List String) :
    (yearValues (authorityKey authority) metric years values).map Prod.fst =
      years.map (taxKey authority metric) := by
  refine List.ext_getElem (by simp [yearValues]) fun k _ _ => ?_
  simp [yearValues, taxKey, taxPrefix]

/-- Of a year that stands several times in the header the last place counts. -/
theorem lookup_reverse_yearValues {metric : String × String} {k : Nat}
    (hauthority : authority ∈ authorities) (hmetric : metric ∈ metrics)
    (hk : IsLastAt years year k) (values : List String) :
    (yearValues (authorityKey authority) metric.2 years values).reverse.lookup
        (taxKey authority metric.2 year) =
      some ((values[k]?.map Json.str).getD .null) := by
  have hinj : Function.Injective (taxKey authority metric.2) := fun _ _ heq =>
    ((taxKey_inj hauthority hauthority hmetric hmetric).1 heq).2.2
  have hkeys : IsLastAt ((yearValues (authorityKey authority) metric.2 years values).map Prod.fst)
      (taxKey authority metric.2 year) k := by
    rw [map_fst_yearValues]
    exact hk.map hinj
  apply hkeys.lookup_reverse
  rw [yearValues, List.getElem?_mapIdx, hk.1]
  rfl

theorem mem_keys_rowValues {key : String} :
    key ∈ (rowValues years (authorityKey authority) row).map Prod.fst ↔
      ∃ metric ∈ metrics, Text.occursIn metric.1 row.here.normalText = true ∧
        ∃ year ∈ years, key = taxKey authority metric.2 year := by
  rw [rowValues, List.map_flatMap, List.mem_flatMap]
  constructor
  · rintro ⟨metric, hmem, hkey⟩
    obtain ⟨hmetric, hlabel⟩ := List.mem_filter.1 hmem
    rw [map_fst_yearValues] at hkey
    obtain ⟨year, hyear, rfl⟩ := List.mem_map.1 hkey
    exact ⟨metric, hmetric, hlabel, year, hyear, rfl⟩
  · rintro ⟨metric, hmetric, hlabel, year, hyear, rfl⟩
    refine ⟨metric, List.mem_filter.2 ⟨hmetric, hlabel⟩, ?_⟩
    rw [map_fst_yearValues]
    exact List.mem_map_of_mem hyear

/-- **A row gives each metric its own values**, also if it contains both labels. -/
theorem lookup_reverse_rowValues {metric : String × String} {k : Nat}
    (hauthority : authority ∈ authorities) (hmetric : metric ∈ metrics)
    (hlabel : Text.occursIn metric.1 row.here.normalText = true)
    (hk : IsLastAt years year k) :
    (rowValues years (authorityKey authority) row).reverse.lookup
        (taxKey authority metric.2 year) =
      some (((allTexts row ".text-end-mine span")[k]?.map Json.str).getD .null) := by
  have hmem : metric ∈ metrics.filter fun m => Text.occursIn m.1 row.here.normalText :=
    List.mem_filter.2 ⟨hmetric, hlabel⟩
  have hnodup : (metrics.filter fun m => Text.occursIn m.1 row.here.normalText).Nodup :=
    List.filter_sublist.nodup (by decide)
  obtain ⟨i, hi⟩ := List.mem_iff_getElem?.1 hmem
  rw [rowValues, List.flatMap_def]
  refine lookup_reverse_flatten (i := i) ?_
    (lookup_reverse_yearValues hauthority hmetric hk (allTexts row ".text-end-mine span")) ?_
  · rw [List.getElem?_map, hi, Option.map_some]
  · -- the values of the other metric have other names, so each metric is written only once
    intro j fs hj hfs hkey
    rw [List.getElem?_map] at hfs
    obtain ⟨other, hother, rfl⟩ := Option.map_eq_some_iff.1 hfs
    rw [map_fst_yearValues] at hkey
    obtain ⟨_, -, heq⟩ := List.mem_map.1 hkey
    have hothers := (List.mem_filter.1 (List.mem_of_getElem? hother)).1
    obtain ⟨-, rfl, -⟩ := (taxKey_inj hauthority hauthority hothers hmetric).1 heq
    have hij := (isLastAt_of_nodup hnodup hi).unique (isLastAt_of_nodup hnodup hother)
    omega

end Row

/-! ## Authorities -/

/-- The authority named last by some rows. -/
def lastAuthority? (rows : List Focus) : Option String :=
  (rows.map (·.here.normalText)).reverse.find? (· ∈ authorities)

theorem lastAuthority?_mem {rows : List Focus} {authority : String}
    (h : lastAuthority? rows = some authority) : authority ∈ authorities := by
  simpa using List.find?_some h

theorem lastAuthority?_cons (row : Focus) (rest : List Focus) :
    lastAuthority? (row :: rest) = (lastAuthority? rest).or (lastAuthority? [row]) := by
  rw [lastAuthority?, List.map_cons, List.reverse_cons, List.find?_append]
  rfl

theorem lastAuthority?_singleton (row : Focus) :
    lastAuthority? [row] =
      if row.here.normalText ∈ authorities then some row.here.normalText else none := by
  rw [lastAuthority?, List.map_singleton, List.reverse_singleton, List.find?_singleton]
  simp only [decide_eq_true_eq]

/-! ## One piece for each row -/

/-- What a row gives, once `authority` was named. -/
def rowPiece (years : List String) (authority : Option String) (row : Focus) :
    List (String × Json) :=
  if row.here.normalText ∈ authorities then []
  else (authority.map fun a => rowValues years (authorityKey a) row).getD []

/-- **One row**: it gives its piece, and the rows behind it are read under the authority that it
names, if it names one. -/
theorem taxRows_cons (years : List String) (authority : Option String) (row : Focus)
    (rest : List Focus) :
    taxRows years (authority.map authorityKey) (row :: rest) =
      rowPiece years authority row ++
        taxRows years (((lastAuthority? [row]).or authority).map authorityKey) rest := by
  rw [lastAuthority?_singleton, rowPiece]
  by_cases hrow : row.here.normalText ∈ authorities
  · rw [taxRows.eq_def]
    simp only [if_pos hrow, Option.some_or, Option.map_some, List.nil_append]
  · -- the authority stays as it was, and before the first one there is none to give values to
    cases authority with
    | none =>
      simp only [taxRows, if_neg hrow, Option.map_none, Option.or_none, Option.getD_none,
        List.nil_append]
    | some a => simp only [taxRows, if_neg hrow, Option.map_some, Option.none_or, Option.getD_some]

/-- **The section is one piece for each row**, under the authority named last before it. -/
theorem taxRows_eq (years : List String) (authority : Option String) (rows : List Focus) :
    taxRows years (authority.map authorityKey) rows =
      (rows.mapIdx fun i row =>
        rowPiece years ((lastAuthority? (rows.take i)).or authority) row).flatten := by
  induction rows generalizing authority with
  | nil => rfl
  | cons row rest ih =>
    rw [taxRows_cons, ih, List.mapIdx_cons, List.flatten_cons]
    -- before a later row the first one has already been read
    have hcarried : ∀ i, (lastAuthority? ((row :: rest).take (i + 1))).or authority =
        (lastAuthority? (rest.take i)).or ((lastAuthority? [row]).or authority) := by
      intro i
      rw [List.take_succ_cons, lastAuthority?_cons, Option.or_assoc]
    simp only [hcarried]
    rfl

/-- **Rows before the first authority** give nothing. -/
theorem taxRows_none_append {years : List String} {before : List Focus} (rest : List Focus)
    (h : ∀ row ∈ before, row.here.normalText ∉ authorities) :
    taxRows years none (before ++ rest) = taxRows years none rest := by
  induction before with
  | nil => rfl
  | cons row before ih =>
    have hrow : row.here.normalText ∉ authorities := h row List.mem_cons_self
    have hbefore := ih fun other hother => h other (List.mem_cons_of_mem row hother)
    simp only [List.cons_append, taxRows, if_neg hrow, hbefore]

/-! ## Rows with values -/

section ValueRows

variable {rows : List Focus} {authority label : String} {i : Nat}

/-- The row at a place gives values of a label under an authority: it contains the label, names no
authority itself, and this one was named last before it. -/
def IsValueRow (rows : List Focus) (authority label : String) (i : Nat) : Prop :=
  ∃ row, rows[i]? = some row ∧ Text.occursIn label row.here.normalText = true ∧
    row.here.normalText ∉ authorities ∧ lastAuthority? (rows.take i) = some authority

/-- The last row that gives values of a label under an authority. -/
def IsLastValueRow (rows : List Focus) (authority label : String) (i : Nat) : Prop :=
  IsValueRow rows authority label i ∧ ∀ j, i < j → ¬IsValueRow rows authority label j

theorem IsValueRow.lt_length (h : IsValueRow rows authority label i) : i < rows.length := by
  obtain ⟨row, hrow, -⟩ := h
  exact (List.getElem?_eq_some_iff.1 hrow).1

/-- If some row gives values, one is the last to do so. -/
theorem IsValueRow.exists_isLastValueRow (h : IsValueRow rows authority label i) :
    ∃ j, IsLastValueRow rows authority label j := by
  classical
  refine ⟨Nat.findGreatest (IsValueRow rows authority label) rows.length,
    Nat.findGreatest_spec h.lt_length.le h, fun j hj hlater => ?_⟩
  exact Nat.findGreatest_is_greatest hj hlater.lt_length.le hlater

end ValueRows

/-! ## Keys of the section -/

section Section

variable {years : List String} {rows : List Focus} {authority year key : String}
  {metric : String × String} {i k : Nat}

/-- A row gives values only under an authority that was named before, and none if it names one
itself. -/
theorem mem_keys_rowPiece {named : Option String} {row : Focus} :
    key ∈ (rowPiece years named row).map Prod.fst ↔
      ∃ authority, named = some authority ∧ row.here.normalText ∉ authorities ∧
        ∃ metric ∈ metrics, Text.occursIn metric.1 row.here.normalText = true ∧
          ∃ year ∈ years, key = taxKey authority metric.2 year := by
  rw [rowPiece]
  by_cases hrow : row.here.normalText ∈ authorities
  · simp [hrow]
  · cases named with
    | none => simp
    | some authority =>
      simp only [if_neg hrow, Option.map_some, Option.getD_some, mem_keys_rowValues]
      simp [hrow]

/-- A whole section begins without an authority. -/
theorem taxRows_none_eq (years : List String) (rows : List Focus) :
    taxRows years none rows =
      (rows.mapIdx fun i row => rowPiece years (lastAuthority? (rows.take i)) row).flatten := by
  simpa using taxRows_eq years none rows

/-- **The keys of a section**: those of its value rows. -/
theorem mem_keys_taxRows :
    key ∈ (taxRows years none rows).map Prod.fst ↔
      ∃ authority ∈ authorities, ∃ metric ∈ metrics, ∃ year ∈ years,
        (∃ i, IsValueRow rows authority metric.1 i) ∧ key = taxKey authority metric.2 year := by
  rw [taxRows_none_eq, List.map_flatten, List.mem_flatten]
  constructor
  · rintro ⟨keys, hkeys, hkey⟩
    obtain ⟨piece, hpiece, rfl⟩ := List.mem_map.1 hkeys
    obtain ⟨i, hi, rfl⟩ := List.mem_mapIdx.1 hpiece
    obtain ⟨authority, hnamed, hrow, metric, hmetric, hlabel, year, hyear, rfl⟩ :=
      mem_keys_rowPiece.1 hkey
    exact ⟨authority, lastAuthority?_mem hnamed, metric, hmetric, year, hyear,
      ⟨i, rows[i], List.getElem?_eq_getElem hi, hlabel, hrow, hnamed⟩, rfl⟩
  · rintro ⟨authority, -, metric, hmetric, year, hyear, ⟨i, row, hi, hlabel, hrow, hnamed⟩, rfl⟩
    refine ⟨_, List.mem_map_of_mem (List.mem_mapIdx.2 ⟨i, ?_, rfl⟩), mem_keys_rowPiece.2 ?_⟩
    · exact (List.getElem?_eq_some_iff.1 hi).1
    · obtain ⟨hlt, rfl⟩ := List.getElem?_eq_some_iff.1 hi
      exact ⟨authority, hnamed, hrow, metric, hmetric, hlabel, year, hyear, rfl⟩

theorem taxKey_mem_keys_taxRows (hauthority : authority ∈ authorities)
    (hmetric : metric ∈ metrics) :
    taxKey authority metric.2 year ∈ (taxRows years none rows).map Prod.fst ↔
      year ∈ years ∧ ∃ i, IsValueRow rows authority metric.1 i := by
  rw [mem_keys_taxRows]
  constructor
  · rintro ⟨other, hother, metric', hmetric', year', hyear, hvalue, heq⟩
    obtain ⟨rfl, rfl, rfl⟩ := (taxKey_inj hauthority hother hmetric hmetric').1 heq
    exact ⟨hyear, hvalue⟩
  · rintro ⟨hyear, hvalue⟩
    exact ⟨authority, hauthority, metric, hmetric, year, hyear, hvalue, rfl⟩

/-- **A value of a section is read from the last row** that gives values of its metric under its
authority, at the last place of its year. -/
theorem lookup_reverse_taxRows {row : Focus} (hauthority : authority ∈ authorities)
    (hmetric : metric ∈ metrics) (hlast : IsLastValueRow rows authority metric.1 i)
    (hrow : rows[i]? = some row) (hk : IsLastAt years year k) :
    (taxRows years none rows).reverse.lookup (taxKey authority metric.2 year) =
      some (((allTexts row ".text-end-mine span")[k]?.map Json.str).getD .null) := by
  obtain ⟨⟨row', hrow', hlabel, hno, hnamed⟩, hlater⟩ := hlast
  obtain rfl : row' = row := Option.some.inj (hrow'.symm.trans hrow)
  rw [taxRows_none_eq]
  refine lookup_reverse_flatten (i := i) ?_
    (lookup_reverse_rowValues hauthority hmetric hlabel hk) ?_
  · rw [List.getElem?_mapIdx, hrow, Option.map_some, hnamed, rowPiece, if_neg hno,
      Option.map_some, Option.getD_some]
  · -- a later row with this key would give values of the same metric under the same authority
    intro j piece hj hpiece hkey
    rw [List.getElem?_mapIdx] at hpiece
    obtain ⟨later, hlaterRow, rfl⟩ := Option.map_eq_some_iff.1 hpiece
    obtain ⟨other, hothernamed, hotherno, metric', hmetric', hotherlabel, year', -, heq⟩ :=
      mem_keys_rowPiece.1 hkey
    obtain ⟨rfl, rfl, -⟩ :=
      (taxKey_inj hauthority (lastAuthority?_mem hothernamed) hmetric hmetric').1 heq
    exact hlater j hj ⟨later, hlaterRow, hotherlabel, hotherno, hothernamed⟩

end Section

/-! ## Values on a page -/

/-- No field of a property section is named like a tax value: none has an underscore. -/
theorem name_ne_taxKey {field : PropertyField} (hfield : field ∈ propertyFieldList)
    (authority metric year : String) : field.name ≠ taxKey authority metric year := by
  intro hname
  have hplain : ∀ f ∈ propertyFieldList, '_' ∉ f.name.toList := by
    simp [propertyFieldList]
  apply hplain field hfield
  rw [hname]
  simp [taxKey, taxPrefix]

theorem taxKey_not_mem_propertyFields (s : Focus) (authority metric year : String) :
    taxKey authority metric year ∉ (propertyFields s).map Prod.fst := by
  intro hmem
  obtain ⟨entry, hentry, hname⟩ := List.mem_map.1 hmem
  obtain ⟨row, -, hrow⟩ := List.mem_flatMap.1 hentry
  obtain ⟨field, hfield, rfl⟩ := List.mem_map.1 hrow
  exact name_ne_taxKey (List.mem_filter.1 hfield).1 authority metric year hname

/-- **A page with a tax section has its values**, whatever its property section gives. -/
theorem get?_record? {d : Document} {s : Focus} (h : section? d taxName = some s) :
    ∃ record, record? d = some record ∧ ∀ authority metric year,
      record.get? (taxKey authority metric year) =
        (OrderedMap.ofList (taxValues s)).get? (taxKey authority metric year) := by
  refine ⟨.ofList (sectionEntries propertyFields (section? d propertyName) ++ taxValues s), ?_,
    fun authority metric year => ?_⟩
  · rw [record?, h]
    cases section? d propertyName <;> rfl
  · have hproperty : (sectionEntries propertyFields (section? d propertyName)).reverse.lookup
        (taxKey authority metric year) = none := by
      apply OrderedMap.lookup_eq_none_of_not_mem
      rw [List.map_reverse, List.mem_reverse]
      cases section? d propertyName with
      | none => exact List.not_mem_nil
      | some t => exact taxKey_not_mem_propertyFields t authority metric year
    rw [OrderedMap.get?_ofList, OrderedMap.get?_ofList, List.reverse_append, List.lookup_append,
      hproperty, Option.or_none]

/-! ## Which values a section gives -/

/-- **Tax values are those of their authority, metric and year**. A section has a value exactly for
the years of its header and the authorities under which some row gives values of the metric, and no
other column; no two of these share a name. The value stands in the last such row, at the last place
of the year, and there is none if the row has too few. Rows before the first authority give nothing,
and a page whose first section this is has its values. -/
theorem tax_values_attributed (s : Focus) :
    let data := OrderedMap.ofList (taxValues s)
    (∀ key, key ∈ data.keys ↔ ∃ authority ∈ authorities, ∃ metric ∈ metrics, ∃ year ∈ years s,
      (∃ i, IsValueRow (sectionRows s) authority metric.1 i) ∧
        key = taxKey authority metric.2 year) ∧
    (∀ a ∈ authorities, ∀ b ∈ authorities, ∀ m ∈ metrics, ∀ n ∈ metrics, ∀ year other,
      taxKey a m.2 year = taxKey b n.2 other ↔ a = b ∧ m = n ∧ year = other) ∧
    (∀ authority ∈ authorities, ∀ metric ∈ metrics, ∀ year,
      (taxKey authority metric.2 year ∈ data.keys ↔
        year ∈ years s ∧ ∃ i, IsValueRow (sectionRows s) authority metric.1 i) ∧
      (taxKey authority metric.2 year ∈ data.keys →
        ∃ i row k, IsLastValueRow (sectionRows s) authority metric.1 i ∧
          (sectionRows s)[i]? = some row ∧ IsLastAt (years s) year k ∧
          data.get? (taxKey authority metric.2 year) =
            some (((allTexts row ".text-end-mine span")[k]?.map Json.str).getD .null))) ∧
    (∀ before rest, sectionRows s = before ++ rest →
      (∀ row ∈ before, row.here.normalText ∉ authorities) →
        taxValues s = taxRows (years s) none rest) ∧
    ∀ d, section? d taxName = some s → ∃ record, record? d = some record ∧
      ∀ authority metric year, record.get? (taxKey authority metric year) =
        data.get? (taxKey authority metric year) := by
  intro data
  refine ⟨fun key => ?_, ?_, ?_, ?_, fun d hd => get?_record? hd⟩
  · rw [OrderedMap.mem_keys_ofList, taxValues, mem_keys_taxRows]
  · intro a ha b hb m hm n hn year other
    exact taxKey_inj ha hb hm hn
  · intro authority hauthority metric hmetric year
    have hkey : taxKey authority metric.2 year ∈ data.keys ↔
        year ∈ years s ∧ ∃ i, IsValueRow (sectionRows s) authority metric.1 i := by
      rw [OrderedMap.mem_keys_ofList, taxValues, taxKey_mem_keys_taxRows hauthority hmetric]
    refine ⟨hkey, fun hmem => ?_⟩
    obtain ⟨hyear, _, hvalue⟩ := hkey.1 hmem
    -- the last row that gives the metric writes last, and in it the last place of the year
    obtain ⟨i, hlast⟩ := hvalue.exists_isLastValueRow
    obtain ⟨row, hrow, -⟩ := hlast.1
    obtain ⟨k, hk⟩ := exists_isLastAt hyear
    refine ⟨i, row, k, hlast, hrow, hk, ?_⟩
    rw [OrderedMap.get?_ofList]
    exact lookup_reverse_taxRows hauthority hmetric hlast hrow hk
  · intro before rest hrows hbefore
    rw [taxValues, hrows, taxRows_none_append rest hbefore]

/-- A value before the first authority, a year that stands twice in the header and a row with too
few values: the year counts where it stands last, and there the row has nothing. -/
theorem tax_values_attributed_repeated_year :
    let span (text : String) : Node := .element ⟨"span", .empty⟩ [.text .ordinary text]
    let row (kind label : String) (values : List String) : Node :=
      .element ⟨"tr", .ofList [("class", kind)]⟩ [.element ⟨"td", .empty⟩ [.text .ordinary label],
        .element ⟨"td", .ofList [("class", "text-end-mine")]⟩ (values.map span)]
    let d : Document := ⟨[.element ⟨taxName, .empty⟩
      [.element ⟨"tr", .ofList [("class", "header-row")]⟩
        [.element ⟨"td", .empty⟩ (["2024", "2023", "Year", "2024"].map span)],
        row "" "Taxable Value" ["$1"], row "" "CITY" [], row "" "Taxable Value" ["$2", "$3"]]]⟩
    ∃ record, record? d = some record ∧
      record.get? "city_taxablevalue_2023" = some (.str "$3") ∧
      record.get? "city_taxablevalue_2024" = some .null := by
  intro span row d
  obtain ⟨s, hs, hyears, hlength, ⟨last, hlast, hlabel, hno, hnamed, htexts⟩⟩ :
      ∃ s, section? d taxName = some s ∧ years s = ["2024", "2023", "2024"] ∧
        (sectionRows s).length = 4 ∧ ∃ last, (sectionRows s)[3]? = some last ∧
          Text.occursIn "Taxable Value" last.here.normalText = true ∧
          last.here.normalText ∉ authorities ∧
          lastAuthority? ((sectionRows s).take 3) = some "CITY" ∧
          allTexts last ".text-end-mine span" = ["$2", "$3"] := by
    refine ⟨_, rfl, ?_, ?_, _, rfl, ?_, ?_, ?_, ?_⟩
    all_goals decide +kernel
  have hvalue : IsValueRow (sectionRows s) "CITY" "Taxable Value" 3 :=
    ⟨last, hlast, hlabel, hno, hnamed⟩
  obtain ⟨-, -, hvalues, -, hpage⟩ := tax_values_attributed s
  obtain ⟨record, hrecord, hsame⟩ := hpage d hs
  -- what the page gives for a year is read in the last row
  have hread : ∀ year k, IsLastAt ["2024", "2023", "2024"] year k →
      record.get? (taxKey "CITY" "taxablevalue" year) =
        some ((["$2", "$3"][k]?.map Json.str).getD .null) := by
    intro year k hk
    have hyear : year ∈ years s := hyears ▸ List.mem_of_getElem? hk.1
    obtain ⟨hmem, hget⟩ :=
      hvalues "CITY" (by decide) ("Taxable Value", "taxablevalue") (by decide) year
    obtain ⟨i, shown, j, hi, hrow, hj, hget⟩ := hget (hmem.2 ⟨hyear, 3, hvalue⟩)
    have hthree : i = 3 := by
      have hlt := hi.1.lt_length
      have hge : ¬i < 3 := fun h => hi.2 3 h hvalue
      omega
    rw [hyears] at hj
    rw [hthree, hlast] at hrow
    rw [hsame, hget, ← Option.some.inj hrow, htexts, hj.unique hk]
  refine ⟨record, hrecord, ?_, ?_⟩
  · exact hread "2023" 1 (isLastAt_append_cons ["2024"] (by decide))
  · exact hread "2024" 2 (isLastAt_append_cons ["2024", "2023"] (by decide))

end ParcelRecords.Appraiser
