import Mathlib.Data.List.Induction
import Mathlib.Data.List.Nodup
import ParcelRecords.OrderedMap

/-!
# Writing one map over another

What is left after many writes. The columns and the values that a map reads determine it, so that a
law of writing splits into one about columns and one about reading.

## Main results

* `OrderedMap.keys_merge`, `OrderedMap.get?_merge`: old columns stay, new ones follow in order, and
  the map written last is read first
* `OrderedMap.get?_insertAll`: the last write of a key is read
* `OrderedMap.merge_insert`, `OrderedMap.merge_ofList`: writes can be gathered in a map of their own
  before they are written over another
* `OrderedMap.map_insertAll`: values can be changed before they are written or after
* `OrderedMap.keys_ofList`: the columns are the keys that are written, each where it comes first
* `OrderedMap.keys_filterMap`, `OrderedMap.get?_filterMap`: what stays keeps its place and is read
  under its key
-/

namespace ParcelRecords.OrderedMap

variable {α β : Type}

/-! ## Reading -/

theorem lookup_eq_none_of_not_mem {es : List (String × α)} {k : String}
    (h : k ∉ es.map Prod.fst) : es.lookup k = none := by
  rw [List.lookup_eq_none_iff]
  intro e he
  have hne : k ≠ e.1 := fun heq => h (heq ▸ List.mem_map_of_mem he)
  simpa using hne

theorem lookup_eq_some_iff {es : List (String × α)} (h : (es.map Prod.fst).Nodup) {k : String}
    {v : α} : es.lookup k = some v ↔ (k, v) ∈ es := by
  induction es with
  | nil => simp
  | cons e rest ih =>
    obtain ⟨j, w⟩ := e
    rw [List.map_cons, List.nodup_cons] at h
    rw [lookup_cons]
    by_cases hk : k = j
    · subst hk
      have hrest : (k, v) ∉ rest := fun hmem => h.1 (List.mem_map.2 ⟨_, hmem, rfl⟩)
      simp [hrest, eq_comm]
    · simp [ih h.2, hk]

/-- An entry is read at its key, and nothing else is. -/
theorem get?_eq_some_iff {m : OrderedMap α} {k : String} {v : α} :
    m.get? k = some v ↔ (k, v) ∈ m.entries :=
  lookup_eq_some_iff m.nodup_keys

theorem get?_eq_none_iff {m : OrderedMap α} {k : String} : m.get? k = none ↔ k ∉ m.keys := by
  constructor
  · intro h hk
    obtain ⟨⟨j, v⟩, hmem, rfl⟩ := List.mem_map.1 hk
    rw [get?_eq_some_iff.2 hmem] at h
    cases h
  · exact lookup_eq_none_of_not_mem

theorem mem_keys_iff {m : OrderedMap α} {k : String} : k ∈ m.keys ↔ ∃ v, m.get? k = some v := by
  rw [← Option.ne_none_iff_exists', ne_eq, get?_eq_none_iff, not_not]

/-- Entries with distinct keys may be read in any order. -/
theorem lookup_of_perm {es fs : List (String × α)} (h : (es.map Prod.fst).Nodup) (hperm : es.Perm fs)
    (k : String) : es.lookup k = fs.lookup k := by
  have hfs : (fs.map Prod.fst).Nodup := (hperm.map Prod.fst).nodup_iff.1 h
  ext v
  rw [lookup_eq_some_iff h, lookup_eq_some_iff hfs, hperm.mem_iff]

/-- **Reading around one entry**, wherever it stands: it is read at its key, and the others at all
other keys. -/
theorem get?_of_perm_cons {m : OrderedMap α} {k : String} {v : α} {rest : List (String × α)}
    (h : m.entries.Perm ((k, v) :: rest)) :
    (∀ j, m.get? j = if j = k then some v else rest.lookup j) ∧ rest.lookup k = none := by
  constructor
  · intro j
    rw [get?, lookup_of_perm m.nodup_keys h, lookup_cons]
  · have hnodup := (h.map Prod.fst).nodup_iff.1 m.nodup_keys
    exact lookup_eq_none_of_not_mem (List.nodup_cons.1 hnodup).1

@[simp] theorem get?_empty (k : String) : (empty : OrderedMap α).get? k = none := rfl

@[simp] theorem keys_empty : (empty : OrderedMap α).keys = [] := rfl

/-- **Columns and readings determine a map**. -/
theorem eq_of_keys_of_get? {m n : OrderedMap α} (hkeys : m.keys = n.keys)
    (hget : ∀ k, m.get? k = n.get? k) : m = n := by
  obtain ⟨es, hes⟩ := m
  obtain ⟨fs, hfs⟩ := n
  refine ext ?_
  change es.map Prod.fst = fs.map Prod.fst at hkeys
  change ∀ k, es.lookup k = fs.lookup k at hget
  change es = fs
  induction es generalizing fs with
  | nil => exact (List.map_eq_nil_iff.1 hkeys.symm).symm
  | cons e es ih =>
    cases fs with
    | nil => cases hkeys
    | cons f fs =>
      obtain ⟨j, v⟩ := e
      obtain ⟨i, w⟩ := f
      rw [List.map_cons, List.nodup_cons] at hes hfs
      obtain ⟨rfl, htail⟩ : j = i ∧ es.map Prod.fst = fs.map Prod.fst := by simpa using hkeys
      have hvw : v = w := by simpa [lookup_cons] using hget j
      -- the first key is read in neither tail, every other key is read as before
      have hrest : ∀ k, es.lookup k = fs.lookup k := by
        intro k
        by_cases hk : k = j
        · rw [hk, lookup_eq_none_of_not_mem hes.1, lookup_eq_none_of_not_mem hfs.1]
        · simpa [lookup_cons, hk] using hget k
      rw [hvw, ih hes.2 fs hfs.2 htail hrest]

/-! ## Lists of writes -/

section Writes

variable (m n : OrderedMap α)

@[simp] theorem insertAll_nil : m.insertAll [] = m := rfl

theorem insertAll_cons (e : String × α) (es : List (String × α)) :
    m.insertAll (e :: es) = (m.insert e.1 e.2).insertAll es := rfl

theorem insertAll_append (es fs : List (String × α)) :
    m.insertAll (es ++ fs) = (m.insertAll es).insertAll fs :=
  List.foldl_append

/-- **The last write of a key is read**; a key that is not written keeps its value. -/
theorem get?_insertAll (es : List (String × α)) (k : String) :
    (m.insertAll es).get? k = (es.reverse.lookup k).or (m.get? k) := by
  induction es generalizing m with
  | nil => rfl
  | cons e es ih =>
    rw [insertAll_cons, ih, get?_insert, List.reverse_cons, List.lookup_append]
    by_cases hk : k = e.1 <;> simp [hk, lookup_cons]

theorem get?_ofList (es : List (String × α)) (k : String) :
    (ofList es).get? k = es.reverse.lookup k := by
  rw [ofList, get?_insertAll, get?_empty, Option.or_none]

/-- Nothing is in a map but what was there and what was written. -/
theorem mem_or_mem_of_mem_entries_insertAll {es : List (String × α)} {e : String × α}
    (h : e ∈ (m.insertAll es).entries) : e ∈ m.entries ∨ e ∈ es := by
  have hread := get?_eq_some_iff.2 h
  rw [get?_insertAll, Option.or_eq_some_iff, List.lookup_eq_some_iff] at hread
  rcases hread with ⟨before, after, hsplit, -⟩ | ⟨-, hold⟩
  · exact .inr (List.mem_reverse.1 (hsplit ▸ List.mem_append_right before List.mem_cons_self))
  · exact .inl (get?_eq_some_iff.1 hold)

theorem mem_of_mem_entries_ofList {es : List (String × α)} {e : String × α}
    (h : e ∈ (ofList es).entries) : e ∈ es :=
  (mem_or_mem_of_mem_entries_insertAll empty h).resolve_left List.not_mem_nil

/-- Writing distinct keys adds those that are new, in order. -/
theorem keys_insertAll_of_nodup {es : List (String × α)} (h : (es.map Prod.fst).Nodup) :
    (m.insertAll es).keys = m.keys ++ (es.map Prod.fst).filter (· ∉ m.keys) := by
  induction es generalizing m with
  | nil => simp
  | cons e es ih =>
    rw [List.map_cons, List.nodup_cons] at h
    rw [insertAll_cons, ih _ h.2, keys_insert, List.map_cons]
    by_cases hk : e.1 ∈ m.keys
    · simp [hk]
    · -- the key just written is not among those still to come
      have hfilter : (es.map Prod.fst).filter (· ∉ m.keys ++ [e.1]) =
          (es.map Prod.fst).filter (· ∉ m.keys) := by
        refine List.filter_congr fun k hmem => ?_
        have hne : k ≠ e.1 := fun heq => h.1 (heq ▸ hmem)
        simp [hne]
      rw [if_neg hk, hfilter]
      simp [hk]

theorem lookup_reverse_of_nodup {es : List (String × α)} (h : (es.map Prod.fst).Nodup)
    (k : String) : es.reverse.lookup k = es.lookup k := by
  have hr : (es.reverse.map Prod.fst).Nodup := by
    rw [List.map_reverse]
    exact List.nodup_reverse.2 h
  refine Option.ext fun v => ?_
  rw [lookup_eq_some_iff hr, lookup_eq_some_iff h, List.mem_reverse]

/-- What is written last is read from the last part that writes the key. -/
theorem lookup_reverse_flatMap (f : β → List (String × α)) (l : List β) (k : String) :
    (l.flatMap f).reverse.lookup k = l.reverse.findSome? fun b => (f b).reverse.lookup k := by
  induction l with
  | nil => rfl
  | cons b rest ih =>
    rw [List.flatMap_cons, List.reverse_append, List.lookup_append, ih, List.reverse_cons,
      List.findSome?_append]
    simp

/-! ## Merging -/

/-- **Columns of a merge**: those of the first map stay where they are, the new ones of the second
follow in their order. -/
theorem keys_merge : (m.merge n).keys = m.keys ++ n.keys.filter (· ∉ m.keys) :=
  keys_insertAll_of_nodup m n.nodup_keys

/-- **Reading a merge**: the second map goes before the first. -/
theorem get?_merge (k : String) : (m.merge n).get? k = (n.get? k).or (m.get? k) := by
  rw [merge, get?_insertAll, lookup_reverse_of_nodup n.nodup_keys]
  rfl

theorem lookup_map_value (f : String → α → β) (es : List (String × α)) (k : String) :
    (es.map fun e => (e.1, f e.1 e.2)).lookup k = (es.lookup k).map (f k) := by
  induction es with
  | nil => rfl
  | cons e es ih =>
    rw [List.map_cons, lookup_cons, lookup_cons, ih]
    by_cases hk : k = e.1
    · rw [if_pos hk, if_pos hk, hk, Option.map_some]
    · rw [if_neg hk, if_neg hk]

/-- **Entries of a merge**: the first map with the values of the second where it has any, then the
new entries of the second. -/
theorem entries_merge : (m.merge n).entries =
    (m.entries.map fun e => (e.1, (n.get? e.1).getD e.2)) ++
      n.entries.filter (·.1 ∉ m.keys) := by
  -- the right side is a map as well, so that columns and readings can be compared
  let es := (m.entries.map fun e => (e.1, (n.get? e.1).getD e.2)) ++
    n.entries.filter (·.1 ∉ m.keys)
  have hkeys : (m.merge n).keys = es.map Prod.fst := by
    rw [keys_merge, List.map_append, List.map_map, keys, keys, List.filter_map]
    rfl
  have hnodup : (es.map Prod.fst).Nodup := hkeys ▸ (m.merge n).nodup_keys
  refine congrArg entries (eq_of_keys_of_get? (n := ⟨es, hnodup⟩) hkeys fun k => ?_)
  have hold := lookup_map_value (fun k v => (n.get? k).getD v) m.entries k
  have hes : es.lookup k = ((m.get? k).map fun v => (n.get? k).getD v).or
      ((n.entries.filter (·.1 ∉ m.keys)).lookup k) := by
    rw [List.lookup_append, hold]
    rfl
  change (m.merge n).get? k = es.lookup k
  rw [get?_merge, hes]
  cases hm : m.get? k with
  | some v => cases n.get? k <;> rfl
  | none =>
    have hk : k ∉ m.keys := get?_eq_none_iff.1 hm
    have hfilter : ((n.entries.filter (·.1 ∉ m.keys)).map Prod.fst).Nodup :=
      (List.filter_sublist.map Prod.fst).nodup n.nodup_keys
    refine Option.ext fun v => ?_
    rw [Option.or_none, Option.map_none, Option.none_or, get?_eq_some_iff,
      lookup_eq_some_iff hfilter, List.mem_filter]
    simp [hk]

@[simp] theorem merge_empty : m.merge empty = m := rfl

@[simp] theorem empty_merge : empty.merge n = n := by
  refine eq_of_keys_of_get? ?_ fun k => ?_
  · rw [keys_merge]
    simp
  · rw [get?_merge]
    simp

/-- One more write may be made before or after merging. -/
theorem merge_insert (key : String) (value : α) :
    m.merge (n.insert key value) = (m.merge n).insert key value := by
  refine eq_of_keys_of_get? ?_ fun k => ?_
  -- the new key stands last on both sides, unless one of the maps has it
  · rw [keys_merge, keys_insert, keys_insert, keys_merge]
    by_cases hn : key ∈ n.keys
    · by_cases hm : key ∈ m.keys <;> simp [hn, hm]
    · by_cases hm : key ∈ m.keys <;> simp [hn, hm, List.filter_append]
  · rw [get?_merge, get?_insert, get?_insert, get?_merge]
    by_cases hk : k = key <;> simp [hk]

theorem merge_insertAll (es : List (String × α)) :
    m.merge (n.insertAll es) = (m.merge n).insertAll es := by
  induction es generalizing n with
  | nil => rfl
  | cons e es ih => rw [insertAll_cons, ih, merge_insert, insertAll_cons]

/-- **Gathered writes**: a list of writes may first be made on an empty map. -/
theorem merge_ofList (es : List (String × α)) : m.merge (ofList es) = m.insertAll es := by
  rw [ofList, merge_insertAll, merge_empty]

theorem ofList_append (es fs : List (String × α)) :
    ofList (es ++ fs) = (ofList es).merge (ofList fs) := by
  rw [merge_ofList, ofList, insertAll_append, ofList]

@[simp] theorem ofList_entries : ofList n.entries = n :=
  empty_merge n

/-- **Columns are the keys in the order of their first writing**, whatever the values. -/
theorem keys_ofList (es : List (String × α)) : (ofList es).keys = (es.map Prod.fst).eraseDups := by
  -- from the last write back, since a write looks at the columns that are there
  induction es using List.reverseRecOn with
  | nil => rfl
  | append_singleton es e ih =>
    have hlast : ofList (es ++ [e]) = (ofList es).insert e.1 e.2 := by
      rw [ofList, insertAll_append]
      rfl
    rw [hlast, keys_insert, ih, List.map_append, List.eraseDups_append]
    by_cases hmem : e.1 ∈ es.map Prod.fst
    · rw [if_pos (List.mem_eraseDups.2 hmem)]
      simp [List.removeAll, hmem]
    · rw [if_neg fun h => hmem (List.mem_eraseDups.1 h)]
      simp [List.removeAll, hmem, List.eraseDups_cons]

end Writes

/-! ## Changing values -/

section Map

variable (f : α → β)

/-- The map with every value changed. -/
def map (m : OrderedMap α) : OrderedMap β where
  entries := m.entries.map fun e => (e.1, f e.2)
  nodup_keys := by simpa [Function.comp_def] using m.nodup_keys

theorem map_upsert (key : String) (value : α) (es : List (String × α)) :
    (upsert key value es).map (fun e => (e.1, f e.2)) =
      upsert key (f value) (es.map fun e => (e.1, f e.2)) := by
  induction es with
  | nil => rfl
  | cons e rest ih =>
    by_cases hk : e.1 = key
    · simp [upsert, hk]
    · simp [upsert, hk, ih]

theorem map_insert (m : OrderedMap α) (key : String) (value : α) :
    (m.insert key value).map f = (m.map f).insert key (f value) :=
  ext (map_upsert f key value m.entries)

/-- **Values may be changed** before they are written or after. -/
theorem map_insertAll (m : OrderedMap α) (es : List (String × α)) :
    (m.insertAll es).map f = (m.map f).insertAll (es.map fun e => (e.1, f e.2)) := by
  induction es generalizing m with
  | nil => rfl
  | cons e es ih => rw [insertAll_cons, ih, map_insert, List.map_cons, insertAll_cons]

theorem map_ofList (es : List (String × α)) :
    (ofList es).map f = ofList (es.map fun e => (e.1, f e.2)) :=
  map_insertAll f empty es

end Map

/-! ## Leaving entries out -/

section FilterMap

variable (f : α → Option β) (m : OrderedMap α)

theorem map_fst_filterMap (es : List (String × α)) :
    (es.filterMap fun e => (f e.2).map fun v => (e.1, v)).map Prod.fst =
      (es.filter fun e => (f e.2).isSome).map Prod.fst := by
  induction es with
  | nil => rfl
  | cons e es ih => cases hf : f e.2 <;> simp [hf, ih]

/-- The map with every value changed, without the entries that get none. -/
def filterMap : OrderedMap β where
  entries := m.entries.filterMap fun e => (f e.2).map fun v => (e.1, v)
  nodup_keys := by
    rw [map_fst_filterMap]
    exact (List.filter_sublist.map Prod.fst).nodup m.nodup_keys

theorem keys_filterMap :
    (m.filterMap f).keys = (m.entries.filter fun e => (f e.2).isSome).map Prod.fst :=
  map_fst_filterMap f m.entries

/-- What stays is read under its key. -/
theorem get?_filterMap (k : String) : (m.filterMap f).get? k = (m.get? k).bind f := by
  refine Option.ext fun v => ?_
  rw [get?_eq_some_iff, filterMap, List.mem_filterMap, Option.bind_eq_some_iff]
  constructor
  · rintro ⟨⟨j, a⟩, hmem, heq⟩
    obtain ⟨w, hw, hpair⟩ := Option.map_eq_some_iff.1 heq
    cases hpair
    exact ⟨a, get?_eq_some_iff.2 hmem, hw⟩
  · rintro ⟨a, ha, hv⟩
    exact ⟨(k, a), get?_eq_some_iff.1 ha, Option.map_eq_some_iff.2 ⟨v, hv, rfl⟩⟩

end FilterMap

/-! ## New keys -/

theorem upsert_of_not_mem {key : String} (value : α) {es : List (String × α)}
    (h : key ∉ es.map Prod.fst) : upsert key value es = es ++ [(key, value)] := by
  induction es with
  | nil => rfl
  | cons e es ih =>
    rw [List.map_cons, List.mem_cons, not_or] at h
    simp [upsert, Ne.symm h.1, ih h.2]

/-- A new key is written at the end. -/
theorem entries_insert_of_not_mem {m : OrderedMap α} {key : String} (value : α)
    (h : key ∉ m.keys) : (m.insert key value).entries = m.entries ++ [(key, value)] :=
  upsert_of_not_mem value h

/-- New keys are written behind the old entries, in order. -/
theorem entries_insertAll_of_disjoint (m : OrderedMap α) {es : List (String × α)}
    (hes : (es.map Prod.fst).Nodup) (h : ∀ e ∈ es, e.1 ∉ m.keys) :
    (m.insertAll es).entries = m.entries ++ es := by
  induction es generalizing m with
  | nil => simp
  | cons e es ih =>
    rw [List.map_cons, List.nodup_cons] at hes
    have hnew := h e List.mem_cons_self
    -- the keys still to be written differ from the one just written
    have hrest : ∀ f ∈ es, f.1 ∉ (m.insert e.1 e.2).keys := by
      intro f hf hmem
      rw [keys_insert, if_neg hnew, List.mem_append, List.mem_singleton] at hmem
      rcases hmem with hold | heq
      · exact h f (List.mem_cons_of_mem _ hf) hold
      · exact hes.1 (heq ▸ List.mem_map_of_mem hf)
    rw [insertAll_cons, ih _ hes.2 hrest, entries_insert_of_not_mem e.2 hnew, List.append_assoc,
      List.singleton_append]

/-- A list of distinct keys is a map as it stands. -/
theorem entries_ofList_of_nodup {es : List (String × α)} (h : (es.map Prod.fst).Nodup) :
    (ofList es).entries = es := by
  rw [ofList, entries_insertAll_of_disjoint empty h (by simp), entries_empty, List.nil_append]

end ParcelRecords.OrderedMap
