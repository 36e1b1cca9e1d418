import Mathlib.Data.List.Nodup
import ParcelRecords.Proofs.Record.Leaves

/-!
# When a flat record says all

An underscore in the name of a flat record stands between two names of the record, unless it was in
a name before. If no name has one, and none is empty, the joined names are split again at their
underscores. No two leaves then have one name, so the flat record has an entry for every leaf. The
leaves in their order determine the record as long as no object in it is empty: what stands below
one name stands together.

## Main definitions

* `Json.HasPlainNames`: the names inside a value can be told apart when they are joined
* `Json.HasFullObjects`: no object inside a value is empty
* `Record.splitName`: the parts of a name between its underscores

## Main results

* `Record.splitName_leafName`: joined names are split again
* `Record.splitEntries_flatten`: the flat record shows every leaf with its path
* `Record.leaves_injective`: the leaves determine a value
* `Record.flatten_lossless`: both together
-/

namespace ParcelRecords

/-- A name that is neither empty nor holds an underscore. -/
def IsPlainName (name : String) : Prop :=
  name ≠ "" ∧ '_' ∉ name.toList

instance : DecidablePred IsPlainName := fun _ => inferInstanceAs (Decidable (_ ∧ _))

/-- The names inside a value are plain, and no object has one of them twice. -/
inductive Json.HasPlainNames : Json → Prop where
  | leaf {v : Json} (hleaf : v.kind ≠ .obj) : HasPlainNames v
  | obj {fields : List (String × Json)} (hdistinct : (fields.map Prod.fst).Nodup)
      (hnames : ∀ f ∈ fields, IsPlainName f.1) (hfields : ∀ f ∈ fields, HasPlainNames f.2) :
      HasPlainNames (.obj fields)

/-- No object inside a value is empty, nor is the value an empty object itself. -/
inductive Json.HasFullObjects : Json → Prop where
  | leaf {v : Json} (hleaf : v.kind ≠ .obj) : HasFullObjects v
  | obj {fields : List (String × Json)} (hne : fields ≠ [])
      (hfields : ∀ f ∈ fields, HasFullObjects f.2) : HasFullObjects (.obj fields)

theorem Json.HasPlainNames.fields {fields : List (String × Json)}
    (h : (Json.obj fields).HasPlainNames) : ∀ f ∈ fields, f.2.HasPlainNames := by
  cases h with
  | leaf hleaf => exact absurd rfl hleaf
  | obj _ _ hfields => exact hfields

theorem Json.HasFullObjects.fields {fields : List (String × Json)}
    (h : (Json.obj fields).HasFullObjects) : ∀ f ∈ fields, f.2.HasFullObjects := by
  cases h with
  | leaf hleaf => exact absurd rfl hleaf
  | obj _ hfields => exact hfields

namespace Record

/-! ## Names -/

/-- The parts of a name between its underscores. -/
def splitName (name : String) : List String :=
  (name.toList.splitOn '_').map String.ofList

/-- **Joined names are split again** if they are plain. -/
theorem splitName_leafName {names : List String} (hne : names ≠ [])
    (hplain : ∀ name ∈ names, IsPlainName name) : splitName (leafName "" names) = names := by
  have hfront : withoutEmptyFront names = names := by
    match names with
    | [] => rfl
    | [_] => rfl
    | name :: _ :: _ => rw [withoutEmptyFront, if_neg (hplain name List.mem_cons_self).1]
  have hsplit : ("_".toList.intercalate (names.map String.toList)).splitOn '_' =
      names.map String.toList := by
    refine List.splitOn_intercalate '_' ?_ (by simpa using hne)
    simpa using fun name hname => (hplain name hname).2
  rw [splitName, leafName, if_pos rfl, hfront, String.toList_intercalate, hsplit, List.map_map]
  simp [Function.comp_def]

theorem isPlainName_of_leadsTo {v w : Json} {names : List String} (h : v.HasPlainNames)
    (hleads : v.LeadsTo names w) : ∀ name ∈ names, IsPlainName name := by
  induction hleads with
  | here v => exact List.forall_mem_nil _
  | field hmem _ ih =>
    cases h with
    | leaf hleaf => exact absurd rfl hleaf
    | obj _ hnames hfields => exact List.forall_mem_cons.2 ⟨hnames _ hmem, ih (hfields _ hmem)⟩

/-! ## Paths -/

/-- A leaf of fields has the name of a field in front of its path. -/
theorem head?_of_mem_leavesOf {fields : List (String × Json)} {l : List String × Json}
    (h : l ∈ leavesOf fields) : ∃ name ∈ fields.map Prod.fst, l.1.head? = some name := by
  obtain ⟨f, hf, l', -, rfl⟩ := mem_leavesOf.1 h
  exact ⟨f.1, List.mem_map_of_mem hf, rfl⟩

theorem path_ne_nil_of_mem_leavesOf {fields : List (String × Json)} {l : List String × Json}
    (h : l ∈ leavesOf fields) : l.1 ≠ [] := by
  obtain ⟨f, -, l', -, rfl⟩ := mem_leavesOf.1 h
  exact List.cons_ne_nil _ _

/-- No two leaves of fields have one path if none of one field do. -/
theorem nodup_paths_leavesOf {fields : List (String × Json)}
    (hdistinct : (fields.map Prod.fst).Nodup)
    (hfields : ∀ f ∈ fields, ((leaves f.2).map Prod.fst).Nodup) :
    ((leavesOf fields).map Prod.fst).Nodup := by
  induction fields with
  | nil => exact List.nodup_nil
  | cons f rest ih =>
    obtain ⟨key, value⟩ := f
    obtain ⟨hkey, hrest⟩ := List.nodup_cons.1 hdistinct
    obtain ⟨hvalue, hvalues⟩ := List.forall_mem_cons.1 hfields
    have hbelow : ((leaves value).map fun l => (key :: l.1, l.2)).map Prod.fst =
        ((leaves value).map Prod.fst).map (key :: ·) := by
      rw [List.map_map, List.map_map]
      rfl
    rw [leavesOf, List.map_append, hbelow]
    refine (hvalue.map List.cons_injective).append (ih hrest hvalues) ?_
    -- paths below another name begin with that name
    intro path hpath hpath'
    obtain ⟨names, -, rfl⟩ := List.mem_map.1 hpath
    obtain ⟨l, hl, hl'⟩ := List.mem_map.1 hpath'
    obtain ⟨name, hname, hhead⟩ := head?_of_mem_leavesOf hl
    rw [hl'] at hhead
    exact hkey (Option.some.inj hhead ▸ hname)

/-- No two leaves have one path. -/
theorem nodup_paths {v : Json} (h : v.HasPlainNames) : ((leaves v).map Prod.fst).Nodup := by
  induction h with
  | leaf hleaf =>
    rw [leaves_of_kind_ne hleaf]
    exact List.nodup_singleton _
  | obj hdistinct _ _ ih =>
    rw [leaves]
    exact nodup_paths_leavesOf hdistinct ih

/-- **Every leaf with its path** is shown by the flat record, in order. -/
theorem splitEntries_flatten {data : Record} (h : (Json.obj data.entries).HasPlainNames) :
    (data.flatten "").entries.map (fun e => (splitName e.1, e.2)) = leafPaths data := by
  have hsplit : ∀ l ∈ leafPaths data, splitName (leafName "" l.1) = l.1 := fun l hl =>
    splitName_leafName (path_ne_nil_of_mem_leavesOf hl)
      (isPlainName_of_leadsTo h (mem_leafPaths_iff.1 hl).1)
  -- the joined names differ, since splitting them gives paths that differ
  have hpaths : ((leafPaths data).map fun l => leafName "" l.1).map splitName =
      (leafPaths data).map Prod.fst := by
    rw [List.map_map]
    exact List.map_congr_left hsplit
  have hnames : (((leafPaths data).map fun l => (leafName "" l.1, l.2)).map Prod.fst).Nodup := by
    rw [List.map_map]
    refine List.Nodup.of_map splitName ?_
    change (((leafPaths data).map fun l => leafName "" l.1).map splitName).Nodup
    rw [hpaths]
    exact nodup_paths h
  rw [flatten_eq, joinedLeaves_eq, OrderedMap.entries_ofList_of_nodup hnames, List.map_map]
  have hentries : ∀ l ∈ leafPaths data, (splitName (leafName "" l.1), l.2) = l := fun l hl =>
    Prod.ext (hsplit l hl) rfl
  exact (List.map_congr_left hentries).trans (List.map_id _)

/-! ## Back to the record -/

theorem leavesOf_cons_ne_nil {f : String × Json} (h : leaves f.2 ≠ [])
    (rest : List (String × Json)) : leavesOf (f :: rest) ≠ [] := by
  rw [leavesOf]
  exact List.append_ne_nil_of_left_ne_nil (by simpa using h) _

theorem leaves_ne_nil {v : Json} (h : v.HasFullObjects) : leaves v ≠ [] := by
  induction h with
  | leaf hleaf =>
    rw [leaves_of_kind_ne hleaf]
    exact List.cons_ne_nil _ _
  | @obj fields hne _ ih =>
    cases fields with
    | nil => exact absurd rfl hne
    | cons f rest =>
      rw [leaves]
      exact leavesOf_cons_ne_nil (ih f List.mem_cons_self) rest

/-- The first leaf of fields stands below the name of the first field. -/
theorem head?_leavesOf_cons {f : String × Json} (h : leaves f.2 ≠ [])
    (rest : List (String × Json)) :
    (leavesOf (f :: rest)).head?.bind (fun l => l.1.head?) = some f.1 := by
  obtain ⟨l, ls, hleaves⟩ := List.exists_cons_of_ne_nil h
  rw [leavesOf, hleaves]
  rfl

/-- The leaves of a field are those whose paths begin with its name. -/
theorem filter_leavesOf {key : String} {rest : List (String × Json)}
    (h : key ∉ rest.map Prod.fst) (value : Json) :
    ((leavesOf ((key, value) :: rest)).filter fun l => l.1.head? = some key) =
      (leaves value).map fun l => (key :: l.1, l.2) := by
  have hown : ∀ l ∈ (leaves value).map fun l => (key :: l.1, l.2),
      decide (l.1.head? = some key) = true := by
    intro l hl
    obtain ⟨l', -, rfl⟩ := List.mem_map.1 hl
    exact decide_eq_true rfl
  have hother : ∀ l ∈ leavesOf rest, ¬decide (l.1.head? = some key) = true := by
    intro l hl hhead
    obtain ⟨name, hname, heq⟩ := head?_of_mem_leavesOf hl
    rw [of_decide_eq_true hhead] at heq
    exact h (Option.some.inj heq ▸ hname)
  rw [leavesOf, List.filter_append, List.filter_eq_self.2 hown, List.filter_eq_nil_iff.2 hother,
    List.append_nil]

/-- Fields are determined by their leaves if their values are. -/
theorem leavesOf_injective {fields gs : List (String × Json)}
    (hfields : (fields.map Prod.fst).Nodup) (hgs : (gs.map Prod.fst).Nodup)
    (hfull : ∀ f ∈ fields, leaves f.2 ≠ []) (hfull' : ∀ g ∈ gs, leaves g.2 ≠ [])
    (hvalues : ∀ f ∈ fields, ∀ g ∈ gs, leaves f.2 = leaves g.2 → f.2 = g.2)
    (h : leavesOf fields = leavesOf gs) : fields = gs := by
  induction fields generalizing gs with
  | nil =>
    cases gs with
    | nil => rfl
    | cons g gs => exact absurd h.symm (leavesOf_cons_ne_nil (hfull' g List.mem_cons_self) gs)
  | cons f rest ih =>
    cases gs with
    | nil => exact absurd h (leavesOf_cons_ne_nil (hfull f List.mem_cons_self) rest)
    | cons g gs =>
      obtain ⟨hf, hrest⟩ := List.forall_mem_cons.1 hfull
      obtain ⟨hg, hrest'⟩ := List.forall_mem_cons.1 hfull'
      obtain ⟨hkey, hkeys⟩ := List.nodup_cons.1 hfields
      obtain ⟨hkey', hkeys'⟩ := List.nodup_cons.1 hgs
      -- the first leaf tells the first name, and the leaves below this name its value
      have hname : f.1 = g.1 := by
        have hhead := head?_leavesOf_cons hf rest
        rw [h, head?_leavesOf_cons hg gs] at hhead
        exact (Option.some.inj hhead).symm
      obtain ⟨key, value⟩ := f
      obtain ⟨key', value'⟩ := g
      obtain rfl := hname
      have hbelow := filter_leavesOf hkey value
      rw [h, filter_leavesOf hkey' value'] at hbelow
      have hinjective : Function.Injective fun l : List String × Json => (key :: l.1, l.2) := by
        rintro ⟨names, v⟩ ⟨names', v'⟩ heq
        simpa using heq
      have hleaves : leaves value = leaves value' :=
        (List.map_injective_iff.2 hinjective hbelow).symm
      have hvalue : value = value' :=
        hvalues _ List.mem_cons_self _ List.mem_cons_self hleaves
      rw [leavesOf, leavesOf, hleaves] at h
      rw [hvalue, ih hkeys hkeys' hrest hrest'
        (fun f hf g hg => hvalues f (List.mem_cons_of_mem _ hf) g (List.mem_cons_of_mem _ hg))
        (List.append_cancel_left h)]

/-- **The leaves determine a value** with plain names and full objects. -/
theorem leaves_injective {v w : Json} (hv : v.HasPlainNames) (hw : w.HasPlainNames)
    (hfull : v.HasFullObjects) (hfull' : w.HasFullObjects) (h : leaves v = leaves w) : v = w := by
  -- only a value that is no object has a leaf without a path
  have hroot {u : Json} {fields : List (String × Json)} : [([], u)] ≠ leaves (.obj fields) := by
    intro heq
    rw [leaves] at heq
    exact path_ne_nil_of_mem_leavesOf (heq ▸ List.mem_singleton_self _) rfl
  induction hv generalizing w with
  | leaf hleaf =>
    rw [leaves_of_kind_ne hleaf] at h
    cases hw with
    | leaf hleaf' =>
      rw [leaves_of_kind_ne hleaf'] at h
      simpa using h
    | obj => exact absurd h hroot
  | obj hdistinct _ _ ih =>
    cases hw with
    | leaf hleaf' =>
      rw [leaves_of_kind_ne hleaf'] at h
      exact absurd h.symm hroot
    | obj hdistinct' _ hfields' =>
      rw [leaves, leaves] at h
      refine congrArg Json.obj (leavesOf_injective hdistinct hdistinct'
        (fun f hf => leaves_ne_nil (hfull.fields f hf))
        (fun g hg => leaves_ne_nil (hfull'.fields g hg)) (fun f hf g hg => ?_) h)
      exact ih f hf (hfields' g hg) (hfull.fields f hf) (hfull'.fields g hg)

/-- **A flat record loses nothing** of a record with plain names. Split at its underscores, every
name of the flat record is the path of a leaf: there is an entry for each leaf, in order. Two such
records without empty objects are equal if their flat records are. -/
theorem flatten_lossless {data : Record} (h : (Json.obj data.entries).HasPlainNames) :
    (data.flatten "").entries.map (fun e => (splitName e.1, e.2)) = leafPaths data ∧
    ∀ other : Record, (Json.obj other.entries).HasPlainNames →
      (∀ f ∈ data.entries, f.2.HasFullObjects) → (∀ f ∈ other.entries, f.2.HasFullObjects) →
      data.flatten "" = other.flatten "" → data = other := by
  refine ⟨splitEntries_flatten h, fun other hother hfull hfull' hflat => ?_⟩
  have hleaves : leafPaths data = leafPaths other := by
    rw [← splitEntries_flatten h, hflat, splitEntries_flatten hother]
  have hvalues := h.fields
  have hvalues' := hother.fields
  refine OrderedMap.ext (leavesOf_injective data.nodup_keys other.nodup_keys
    (fun f hf => leaves_ne_nil (hfull f hf)) (fun g hg => leaves_ne_nil (hfull' g hg))
    (fun f hf g hg => leaves_injective (hvalues f hf) (hvalues' g hg) (hfull f hf) (hfull' g hg))
    hleaves)

/-- An underscore in an object that stands in a list does no harm, since no path leads into a list.
How a record came to be written does not show. -/
theorem flatten_lossless_mailing :
    let owner := Json.obj [("name", .str "Doe"), ("mailing", .obj [("city", .str "MIAMI")])]
    let sales := Json.arr [.obj [("sale_price", .int 100)], .null]
    let data : Record := ⟨[("owner", owner), ("sales", sales)], by decide⟩
    let other : Record := .ofList [("owner", .null), ("sales", sales), ("owner", owner)]
    (Json.obj data.entries).HasPlainNames ∧ (∀ f ∈ data.entries, f.2.HasFullObjects) ∧
      (data.flatten "").keys = ["owner_name", "owner_mailing_city", "sales"] ∧
      (data.flatten "").entries.map (fun e => (splitName e.1, e.2)) = leafPaths data ∧
      data = other := by
  intro owner sales data other
  have hplain : (Json.obj data.entries).HasPlainNames := by
    refine .obj data.nodup_keys (by decide) (List.forall_mem_cons.2 ⟨?_, ?_⟩)
    · refine .obj (by decide) (by decide) (List.forall_mem_cons.2 ⟨.leaf nofun, ?_⟩)
      refine List.forall_mem_singleton.2 (.obj (by decide) (by decide) ?_)
      exact List.forall_mem_singleton.2 (.leaf nofun)
    · exact List.forall_mem_singleton.2 (.leaf nofun)
  have hfull : ∀ f ∈ data.entries, f.2.HasFullObjects := by
    refine List.forall_mem_cons.2 ⟨.obj (by simp) (List.forall_mem_cons.2 ⟨.leaf nofun, ?_⟩), ?_⟩
    · exact List.forall_mem_singleton.2 (.obj (by simp) (List.forall_mem_singleton.2 (.leaf nofun)))
    · exact List.forall_mem_singleton.2 (.leaf nofun)
  obtain ⟨hshown, hequal⟩ := flatten_lossless hplain
  exact ⟨hplain, hfull, rfl, hshown, hequal other hplain hfull hfull rfl⟩

end Record

end ParcelRecords
