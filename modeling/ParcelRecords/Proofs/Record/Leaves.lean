import ParcelRecords.Proofs.Record.Flatten

/-!
# A flat record is written leaf by leaf

Flattening goes down into a record and gathers what it finds on every level before it writes it one
level up. In the end that is one writing of all leaves, from left to right: each at its names joined
by underscores, over what an earlier leaf left there. A leaf is a value that is no object, wherever
names lead to it. Nothing of a flat record can be flattened further.

## Main definitions

* `Json.LeadsTo`: names lead from a value to a value inside it
* `Record.leafName`: the name of a leaf in the flat record

## Main results

* `Record.mem_leafPaths_iff`: the leaves are the values without fields to which names lead
* `Record.joinPath_eq_leafName`: names joined one by one are joined all at once
* `Record.flatten_eq_self`: a flat record stays as it is
* `Record.flatten_writes_leaves`: the flat record and how its names are read
-/

namespace ParcelRecords

/-- Following the names leads from a value to a value inside it. -/
inductive Json.LeadsTo : Json → List String → Json → Prop where
  | here (v : Json) : LeadsTo v [] v
  | field {fields : List (String × Json)} {name : String} {v w : Json} {names : List String}
      (hmem : (name, v) ∈ fields) (h : LeadsTo v names w) : LeadsTo (.obj fields) (name :: names) w

namespace Record

/-! ## Leaves -/

theorem leaves_of_kind_ne {v : Json} (h : v.kind ≠ .obj) : leaves v = [([], v)] := by
  cases v with
  | obj fields => exact absurd rfl h
  | null => rfl
  | bool b => rfl
  | int i => rfl
  | float x => rfl
  | str s => rfl
  | arr items => rfl

/-- A leaf of fields is a leaf of one of them, below its name. -/
theorem mem_leavesOf {fields : List (String × Json)} {l : List String × Json} :
    l ∈ leavesOf fields ↔ ∃ f ∈ fields, ∃ l' ∈ leaves f.2, l = (f.1 :: l'.1, l'.2) := by
  induction fields with
  | nil => simp [leavesOf]
  | cons f rest ih =>
    obtain ⟨key, value⟩ := f
    rw [leavesOf, List.mem_append, ih, List.mem_map]
    simp [eq_comm]

mutual

theorem leadsTo_of_mem_leaves {v : Json} {l : List String × Json} (h : l ∈ leaves v) :
    v.LeadsTo l.1 l.2 ∧ l.2.kind ≠ .obj := by
  by_cases hkind : v.kind = .obj
  · match v with
    | .obj fields =>
      rw [leaves] at h
      obtain ⟨f, hf, names, hnames, hleads, hleaf⟩ := leadsTo_of_mem_leavesOf h
      rw [hnames]
      exact ⟨.field hf hleads, hleaf⟩
  · rw [leaves_of_kind_ne hkind, List.mem_singleton] at h
    rw [h]
    exact ⟨.here v, hkind⟩

theorem leadsTo_of_mem_leavesOf {fields : List (String × Json)} {l : List String × Json}
    (h : l ∈ leavesOf fields) : ∃ f ∈ fields, ∃ names, l.1 = f.1 :: names ∧
      f.2.LeadsTo names l.2 ∧ l.2.kind ≠ .obj := by
  match fields with
  | (key, value) :: rest =>
    rw [leavesOf] at h
    rcases List.mem_append.1 h with h | h
    · obtain ⟨l', hl', rfl⟩ := List.mem_map.1 h
      exact ⟨_, List.mem_cons_self, l'.1, rfl, leadsTo_of_mem_leaves hl'⟩
    · obtain ⟨f, hf, names, hleads⟩ := leadsTo_of_mem_leavesOf h
      exact ⟨f, List.mem_cons_of_mem _ hf, names, hleads⟩

end

/-- **The leaves of a value** are the values without fields to which names lead. -/
theorem mem_leaves_iff {v w : Json} {names : List String} :
    (names, w) ∈ leaves v ↔ v.LeadsTo names w ∧ w.kind ≠ .obj := by
  constructor
  · exact leadsTo_of_mem_leaves
  · rintro ⟨hleads, hleaf⟩
    induction hleads with
    | here v =>
      rw [leaves_of_kind_ne hleaf]
      exact List.mem_singleton_self _
    | field hmem _ ih =>
      rw [leaves, mem_leavesOf]
      exact ⟨_, hmem, _, ih hleaf, rfl⟩

theorem mem_leafPaths_iff {data : Record} {names : List String} {w : Json} :
    (names, w) ∈ leafPaths data ↔ (Json.obj data.entries).LeadsTo names w ∧ w.kind ≠ .obj := by
  rw [← mem_leaves_iff, leaves, leafPaths]

/-! ## Names of leaves -/

/-- The names of a path without the empty ones in front; the last name stays. -/
def withoutEmptyFront : List String → List String
  | [] => []
  | [last] => [last]
  | name :: next :: rest =>
    if name = "" then withoutEmptyFront (next :: rest) else name :: next :: rest

/-- The name of a leaf below `path`: the names joined by underscores, the path in front if it is not
empty. -/
def leafName (path : String) (names : List String) : String :=
  "_".intercalate (if path = "" then withoutEmptyFront names else path :: names)

/-- Below a path that is not empty every name adds an underscore. -/
theorem joinPath_of_ne_empty {path : String} (h : path ≠ "") (names : List String) :
    joinPath path names = "_".intercalate (path :: names) := by
  induction names generalizing path with
  | nil => rfl
  | cons name rest ih =>
    have hjoined : joinKey path name = path ++ "_" ++ name := if_neg h
    have hne : joinKey path name ≠ "" := by
      rw [hjoined]
      simp
    have hrest : joinPath path (name :: rest) = joinPath (joinKey path name) rest := rfl
    rw [hrest, ih hne, hjoined, String.intercalate_cons_append, String.intercalate_cons_cons]

/-- **Names joined one by one** are joined all at once; without a path the empty ones in front leave
nothing. -/
theorem joinPath_eq_leafName (path : String) (names : List String) :
    joinPath path names = leafName path names := by
  by_cases hpath : path = ""
  · subst hpath
    rw [leafName, if_pos rfl]
    induction names with
    | nil => rfl
    | cons name rest ih =>
      cases rest with
      | nil => rfl
      | cons next rest =>
        have hfirst : joinPath "" (name :: next :: rest) = joinPath name (next :: rest) := rfl
        rw [hfirst, withoutEmptyFront]
        by_cases hname : name = ""
        · rw [if_pos hname, hname, ih]
        · rw [if_neg hname, joinPath_of_ne_empty hname]
  · rw [leafName, if_neg hpath, joinPath_of_ne_empty hpath]

example : leafName "" ["", "owner", ""] = "owner_" := by decide +kernel

theorem joinedLeaves_eq (path : String) (ls : List (List String × Json)) :
    joinedLeaves path ls = ls.map fun l => (leafName path l.1, l.2) := by
  simp only [joinedLeaves, joinPath_eq_leafName]

/-! ## Flat records -/

theorem leaf_of_mem_flatten {path : String} {data : Record} {e : String × Json}
    (h : e ∈ (data.flatten path).entries) : e.2.kind ≠ .obj := by
  rw [flatten_eq] at h
  obtain ⟨l, hl, rfl⟩ := List.mem_map.1 (OrderedMap.mem_of_mem_entries_ofList h)
  exact (mem_leafPaths_iff.1 hl).2

/-- **A record without objects** is flat already. -/
theorem flatten_eq_self {data : Record} (h : ∀ e ∈ data.entries, e.2.kind ≠ .obj) :
    data.flatten "" = data := by
  have hleaves : ∀ fields : List (String × Json), (∀ e ∈ fields, e.2.kind ≠ .obj) →
      joinedLeaves "" (leavesOf fields) = fields := by
    intro fields hfields
    induction fields with
    | nil => rfl
    | cons e rest ih =>
      obtain ⟨he, hrest⟩ := List.forall_mem_cons.1 hfields
      rw [leavesOf, leaves_of_kind_ne he, joinedLeaves_append, ih hrest]
      rfl
  rw [flatten_eq, leafPaths, hleaves data.entries h, OrderedMap.ofList_entries]

theorem lookup_map_pair {α : Type} (f : α → String) (g : α → Json) (ls : List α) (k : String) :
    (ls.map fun l => (f l, g l)).lookup k = (ls.find? fun l => f l = k).map g := by
  induction ls with
  | nil => rfl
  | cons l rest ih =>
    rw [List.map_cons, lookup_cons, ih]
    by_cases hk : k = f l
    · rw [if_pos hk, List.find?_cons_of_pos (by simp [hk]), Option.map_some]
    · rw [if_neg hk, List.find?_cons_of_neg (by simp [Ne.symm hk])]

/-- **The flat record** is what the leaves leave when they are written in order, each at its joined
name. -/
theorem flatten_writes_leaves (path : String) (data : Record) :
    (∀ names w, (names, w) ∈ leafPaths data ↔
      (Json.obj data.entries).LeadsTo names w ∧ w.kind ≠ .obj) ∧
    data.flatten path = .ofList ((leafPaths data).map fun l => (leafName path l.1, l.2)) ∧
    (data.flatten path).keys = ((leafPaths data).map fun l => leafName path l.1).eraseDups ∧
    (∀ name, (data.flatten path).get? name =
      ((leafPaths data).reverse.find? fun l => leafName path l.1 = name).map Prod.snd) ∧
    (∀ e ∈ (data.flatten path).entries, e.2.kind ≠ .obj) ∧
    (data.flatten path).flatten "" = data.flatten path := by
  have hwritten : data.flatten path =
      .ofList ((leafPaths data).map fun l => (leafName path l.1, l.2)) := by
    rw [flatten_eq, joinedLeaves_eq]
  refine ⟨fun names w => mem_leafPaths_iff, hwritten, ?_, fun name => ?_,
    fun e he => leaf_of_mem_flatten he, flatten_eq_self fun e he => leaf_of_mem_flatten he⟩
  · rw [hwritten, OrderedMap.keys_ofList, List.map_map]
    rfl
  · rw [hwritten, OrderedMap.get?_ofList, ← List.map_reverse, lookup_map_pair]

end Record

end ParcelRecords
