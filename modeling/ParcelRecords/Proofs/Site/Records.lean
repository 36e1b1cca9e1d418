import ParcelRecords.Json.Finite
import ParcelRecords.Proofs.Extraction.Values
import ParcelRecords.Proofs.Json.RoundTrip
import ParcelRecords.Proofs.Sheet.Writable
import ParcelRecords.Site.Registry

/-!
# Records of the pages of sites

What the schema of an address reads from a page. If the schemas are objects with finite numbers,
nothing but the page itself keeps them from running. The record has finite numbers then as well;
and since schemas are regular values, it is read back from its printed text.

A schema may hold a text that no bytes stand for, and its record and the names of its sections then
hold it too. So what is found can be shown only if it can be written, and it is stored only if the
sheet of its site takes it.

## Main definitions

* `Site.AreSchemas`: sites whose schemas are objects with finite numbers
* `Registry.found?`: what is read from a page under an address
* `Registry.CannotRun`: the schema of an address is no schema, or the page is no markup
* `Registry.Finds`: something is read from a page under an address
* `Extraction.IsWritable`: the record and the names of the failed sections can be written
* `Registry.CanShow`, `Registry.CanStore`: what is found can be written, and its sheet takes it

## Main results

* `Site.areSchemas_builtIn`, `Site.isRegular_builtIn`: the built-in sites
* `Registry.forall_overlaid`: what holds of the built-in and of further sites holds of all
* `Registry.exists_error_iff`, `Registry.exists_rejection`: when nothing can be read from a page
* `Registry.areFinite_record`, `Registry.read_record`: the numbers and the printed text of a record
* `Registry.CanShow.canStore`: what can be shown can be stored, if its file can be opened
-/

namespace ParcelRecords

open Markup (Document)

/-! ## Regular and finite values -/

namespace Json

theorem exists_fields_of_kind {v : Json} (h : v.kind = .obj) : ∃ fields, v = .obj fields := by
  cases v with
  | obj fields => exact ⟨fields, rfl⟩
  | _ => cases h

theorem isRegular_arr_iff {items : List Json} :
    (arr items).IsRegular ↔ ∀ item ∈ items, item.IsRegular := by
  constructor
  · rintro ⟨⟩
    assumption
  · exact .arr

theorem isRegular_obj_iff {fields : List (String × Json)} :
    (obj fields).IsRegular ↔ (fields.map Prod.fst).Nodup ∧ ∀ f ∈ fields, f.2.IsRegular := by
  constructor
  · rintro ⟨⟩
    exact ⟨‹_›, ‹_›⟩
  · rintro ⟨hkeys, hfields⟩
    exact .obj hkeys hfields

theorem hereditary_isRegular : Hereditary IsRegular where
  null := .null
  bool := .bool
  str := .str
  texts _ := isRegular_arr_iff.2 (List.forall_mem_map.2 fun s _ => .str s)
  field h := (isRegular_obj_iff.1 h).2

theorem areFinite_iff {items : List Json} :
    areFinite items = true ↔ ∀ item ∈ items, item.isFinite = true := by
  induction items with
  | nil => simp [areFinite]
  | cons item rest ih => simp [areFinite, ih]

theorem fieldsFinite_iff {fields : List (String × Json)} :
    fieldsFinite fields = true ↔ ∀ f ∈ fields, f.2.isFinite = true := by
  induction fields with
  | nil => simp [fieldsFinite]
  | cons f rest ih =>
    rw [fieldsFinite, Bool.and_eq_true, ih, List.forall_mem_cons]

theorem hereditary_isFinite : Hereditary fun v => v.isFinite = true where
  null := by simp [isFinite]
  bool _ := by simp [isFinite]
  str _ := by simp [isFinite]
  texts _ := by
    rw [isFinite, areFinite_iff]
    exact List.forall_mem_map.2 fun s _ => by simp [isFinite]
  field h := by
    rw [isFinite] at h
    exact fieldsFinite_iff.1 h

end Json

/-! ## Sites -/

namespace Site

/-- The schemas of the sites are objects, and their numbers are finite. -/
def AreSchemas (sites : OrderedMap Json) : Prop :=
  ∀ s ∈ sites.entries, s.2.kind = .obj ∧ s.2.isFinite = true

theorem areSchemas_builtIn : AreSchemas builtIn := by
  unfold AreSchemas
  decide +kernel

theorem isRegular_builtIn : ∀ s ∈ builtIn.entries, s.2.IsRegular := by
  have hzero : (Json.int 0).IsRegular := .int (by decide)
  intro s hs
  have hmem := OrderedMap.mem_of_mem_entries_ofList hs
  simp only [List.mem_cons, List.not_mem_nil, or_false] at hmem
  rcases hmem with rfl | rfl | rfl | rfl
  · simp [broward, texts, withoutValue, withoutFirstRow, inCounty, Json.isRegular_obj_iff,
      Json.isRegular_arr_iff, Json.IsRegular.str, hzero]
  · simp [miamiDade, inCounty, Json.isRegular_obj_iff, Json.IsRegular.str]
  · simp [duval, texts, withoutValue, inCounty, Json.isRegular_obj_iff, Json.isRegular_arr_iff,
      Json.IsRegular.str, hzero]
  · simp [collier, texts, withoutValue, inCounty, Json.isRegular_obj_iff, Json.isRegular_arr_iff,
      Json.IsRegular.str, hzero]

end Site

/-! ## Records -/

/-- A value cannot be run on a page if it is no object, or if the page is rejected. -/
theorem Extraction.exists_error_iff {value : Json} {html : String} :
    (∃ e, ofPage value html = .error e) ↔
      value.kind ≠ .obj ∨ ∃ rejection, Document.parse html = .error rejection := by
  unfold ofPage
  cases Document.parse html with
  | error rejection => exact ⟨fun _ => .inr ⟨rejection, rfl⟩, fun _ => ⟨_, rfl⟩⟩
  | ok document => cases value <;> simp [Schema.ofJson?, Json.fields?, Json.kind]

/-- What the schema of an address reads from a page; nothing if the address is not served. -/
def Registry.found? (r : Registry) (url html : String) : Option (Except PageError Extraction) :=
  (r.schemaFor? url).map fun value => Extraction.ofPage value html

namespace Registry

variable {r : Registry} {url html : String}

theorem exists_of_schemaFor? {value : Json} (h : r.schemaFor? url = some value) :
    ∃ s ∈ r.sites.entries, s.2 = value := by
  obtain ⟨s, hfirst, hsomething⟩ := Option.bind_eq_some_iff.1 h
  refine ⟨s, List.mem_of_find?_eq_some hfirst, ?_⟩
  unfold something? at hsomething
  split at hsomething
  · cases hsomething
  · exact Option.some.inj hsomething

/-- What holds of all built-in sites and of all further ones holds of all that are overlaid. -/
theorem forall_overlaid {P : Json → Prop} {further : OrderedMap Json}
    (hbuiltIn : ∀ s ∈ Site.builtIn.entries, P s.2) (hfurther : ∀ s ∈ further.entries, P s.2) :
    ∀ s ∈ (overlaid further).sites.entries, P s.2 := by
  intro s hs
  rcases OrderedMap.mem_or_mem_of_mem_entries_insertAll _ hs with hs | hs
  · exact hbuiltIn s hs
  · exact hfurther s hs

theorem isFinite_overlaid {further : OrderedMap Json}
    (h : ∀ s ∈ further.entries, s.2.isFinite = true) :
    ∀ s ∈ (overlaid further).sites.entries, s.2.isFinite = true :=
  forall_overlaid (P := fun v => v.isFinite = true)
    (fun s hs => (Site.areSchemas_builtIn s hs).2) h

/-- The address is served, but its schema is no object, or the page is rejected. -/
def CannotRun (r : Registry) (url html : String) : Prop :=
  ∃ value, r.schemaFor? url = some value ∧
    (value.kind ≠ .obj ∨ ∃ rejection, Document.parse html = .error rejection)

/-- Whether the schema of an address cannot be run is found out by looking for it and by parsing. -/
theorem cannotRun_iff_any : r.CannotRun url html ↔
    ((r.schemaFor? url).any fun value =>
      decide (value.kind ≠ .obj) || !(Document.parse html).isOk) = true := by
  have hparse : (∃ rejection, Document.parse html = .error rejection) ↔
      (!(Document.parse html).isOk) = true := by
    cases Document.parse html <;> simp [Except.isOk, Except.toBool]
  simp only [CannotRun, hparse, Option.any_eq_true, Bool.or_eq_true, decide_eq_true_eq]

instance : Decidable (r.CannotRun url html) :=
  decidable_of_iff _ cannotRun_iff_any.symm

/-- The address is served, and the record of the page is not empty. -/
def Finds (r : Registry) (url html : String) : Prop :=
  ∃ x, r.found? url html = some (.ok x) ∧ x.flat.isEmpty = false

/-- Whether something is found is found out by reading the page. -/
theorem finds_iff : r.Finds url html ↔
    (match r.found? url html with
      | some (.ok x) => x.flat.isEmpty
      | _ => true) = false := by
  unfold Finds
  cases r.found? url html with
  | none => simp
  | some found =>
    cases found with
    | error e => simp
    | ok x => simp

instance : Decidable (r.Finds url html) :=
  decidable_of_iff _ finds_iff.symm

theorem found?_eq_none_iff (html : String) : r.found? url html = none ↔ r.schemaFor? url = none :=
  Option.map_eq_none_iff

/-- **When nothing can be read** from a page of a site. -/
theorem exists_error_iff :
    (∃ e, r.found? url html = some (.error e)) ↔ r.CannotRun url html := by
  simp only [found?, CannotRun, Option.map_eq_some_iff, ← Extraction.exists_error_iff]
  constructor
  · rintro ⟨e, value, hvalue, hpage⟩
    exact ⟨value, hvalue, e, hpage⟩
  · rintro ⟨value, hvalue, e, hpage⟩
    exact ⟨e, value, hvalue, hpage⟩

/-- Nothing but the page itself keeps a schema from running. -/
theorem exists_rejection (hschemas : Site.AreSchemas r.sites) {e : PageError}
    (h : r.found? url html = some (.error e)) : ∃ rejection,
      Document.parse html = .error rejection ∧ e = .rejected rejection := by
  obtain ⟨value, hvalue, hpage⟩ := Option.map_eq_some_iff.1 h
  obtain ⟨s, hs, rfl⟩ := exists_of_schemaFor? hvalue
  unfold Extraction.ofPage at hpage
  split at hpage
  · rename_i rejection hparse
    cases hpage
    exact ⟨rejection, hparse, rfl⟩
  · -- a schema is an object
    rename_i hnone
    obtain ⟨fields, hfields⟩ := Json.exists_fields_of_kind (hschemas s hs).1
    rw [hfields] at hnone
    cases hnone
  · cases hpage

/-- A page that is no markup is rejected under every address that is served. -/
theorem found?_of_rejection (hserved : (r.schemaFor? url).isSome = true)
    {rejection : Markup.Rejection} (h : Document.parse html = .error rejection) :
    r.found? url html = some (.error (.rejected rejection)) := by
  obtain ⟨value, hvalue⟩ := Option.isSome_iff_exists.1 hserved
  rw [found?, hvalue, Option.map_some, Extraction.ofPage, h]

theorem forall_found {P : Json → Prop} (hP : Json.Hereditary P)
    (hsites : ∀ s ∈ r.sites.entries, P s.2) {x : Extraction}
    (h : r.found? url html = some (.ok x)) : ∀ f ∈ x.flat.entries, P f.2 := by
  obtain ⟨value, hvalue, hpage⟩ := Option.map_eq_some_iff.1 h
  obtain ⟨s, hs, rfl⟩ := exists_of_schemaFor? hvalue
  exact Extraction.forall_flat hP (hsites s hs) hpage

/-- **A record is printed and read back**: no field is repeated, and its values are regular. -/
theorem read_record (hregular : ∀ s ∈ r.sites.entries, s.2.IsRegular) {x : Extraction}
    (h : r.found? url html = some (.ok x)) :
    Json.read ((Json.obj x.flat.entries).toIndented ++ "\n") = .ok (.obj x.flat.entries) :=
  Json.read_toIndented
    (.obj x.flat.nodup_keys (forall_found Json.hereditary_isRegular hregular h))

/-- The numbers of a record are finite if those of the schemas are. -/
theorem areFinite_record (hfinite : ∀ s ∈ r.sites.entries, s.2.isFinite = true) {x : Extraction}
    (h : r.found? url html = some (.ok x)) : Json.areFinite x.flat.values = true := by
  rw [Json.areFinite_iff, OrderedMap.values, List.forall_mem_map]
  exact forall_found Json.hereditary_isFinite hfinite h

end Registry

/-! ## Records that can be written -/

/-- The record and the names of the failed sections can be written. -/
def Extraction.IsWritable (x : Extraction) : Prop :=
  (Json.obj x.flat.entries).isWritable = true ∧
    ∀ name ∈ x.failures.keys, Text.isWritable name = true

theorem Extraction.isWritable_iff_all {x : Extraction} : x.IsWritable ↔
    ((Json.obj x.flat.entries).isWritable && x.failures.keys.all Text.isWritable) = true := by
  simp only [IsWritable, Bool.and_eq_true, List.all_eq_true]

instance (x : Extraction) : Decidable x.IsWritable :=
  decidable_of_iff _ Extraction.isWritable_iff_all.symm

namespace Registry

variable {r : Registry} {url html : String}

/-- What is found under an address on a page can be written, and so can the name of the site. -/
def CanShow (r : Registry) (url html : String) : Prop :=
  ∀ x, r.found? url html = some (.ok x) → Text.isWritable (r.siteName url) = true ∧ x.IsWritable

/-- The record that is found under an address on a page is taken by the sheet of its site, and the
name of the site can be written. -/
def CanStore (r : Registry) (url html : String) : Prop :=
  ∀ x, r.found? url html = some (.ok x) → x.flat.isEmpty = false →
    Text.isWritable (r.siteName url) = true ∧ SheetFolder.Takes (r.siteName url) x.flat

theorem canShow_iff_of_found {x : Extraction} (h : r.found? url html = some (.ok x)) :
    r.CanShow url html ↔ Text.isWritable (r.siteName url) = true ∧ x.IsWritable := by
  simp only [CanShow, h, Option.some.injEq, Except.ok.injEq, forall_eq']

theorem canStore_iff_of_found {x : Extraction} (h : r.found? url html = some (.ok x))
    (hsome : x.flat.isEmpty = false) : r.CanStore url html ↔
      Text.isWritable (r.siteName url) = true ∧ SheetFolder.Takes (r.siteName url) x.flat := by
  simp only [CanStore, h, Option.some.injEq, Except.ok.injEq, forall_eq', hsome, true_imp_iff]

/-- **What can be shown can be stored**, if its file can be opened. -/
theorem CanShow.canStore (h : r.CanShow url html)
    (hfile : (SheetFolder.fileName (r.siteName url)).length ≤ SheetFolder.maxNameLength) :
    r.CanStore url html := by
  intro x hfound _
  obtain ⟨hname, hx⟩ := h x hfound
  exact ⟨hname, hfile, Sheet.isWritable_of_fields hx.1⟩

/-- Whether what is found can be shown is found out by reading the page. -/
theorem canShow_iff : r.CanShow url html ↔
    (match r.found? url html with
      | some (.ok x) => decide (Text.isWritable (r.siteName url) = true ∧ x.IsWritable)
      | _ => true) = true := by
  unfold CanShow
  cases r.found? url html with
  | none => simp
  | some found =>
    cases found with
    | error e => simp
    | ok x => simp

instance : Decidable (r.CanShow url html) :=
  decidable_of_iff _ canShow_iff.symm

end Registry

end ParcelRecords
