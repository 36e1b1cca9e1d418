/-!
# Ordered maps

Maps from text to values that remember the order in which their keys were first written. Writing a
key again replaces its value and leaves it where it stands. Records, schemas and registries are such
maps: what is written last wins, and columns keep the order of their first appearance.

## Main definitions

* `OrderedMap α` is a list of entries with distinct keys.
* `OrderedMap.insert` writes one key; `OrderedMap.merge` writes all entries of another map.
* `OrderedMap.get?` reads a key; `OrderedMap.keys` and `OrderedMap.values` list the columns.

## Main results

* `OrderedMap.get?_insert`: reading after a write.
* `OrderedMap.keys_insert`: a write adds its key at the end or leaves the keys as they are.
-/

namespace ParcelRecords

/-- Entries with the value of `key` replaced, or with a new last entry. -/
def upsert {α : Type} (key : String) (value : α) : List (String × α) → List (String × α)
  | [] => [(key, value)]
  | (k, v) :: rest => if k = key then (key, value) :: rest else (k, v) :: upsert key value rest

section Upsert

variable {α : Type}

theorem map_fst_upsert (key : String) (value : α) (es : List (String × α)) :
    (upsert key value es).map Prod.fst =
      if key ∈ es.map Prod.fst then es.map Prod.fst else es.map Prod.fst ++ [key] := by
  induction es with
  | nil => simp [upsert]
  | cons e rest ih =>
    obtain ⟨k, v⟩ := e
    by_cases h : k = key
    · simp [upsert, h]
    · simp only [upsert, h, if_false, List.map_cons, ih, List.mem_cons, Ne.symm h, false_or]
      split <;> simp

theorem nodup_upsert {es : List (String × α)} (h : (es.map Prod.fst).Nodup) (key : String)
    (value : α) : ((upsert key value es).map Prod.fst).Nodup := by
  rw [map_fst_upsert]
  split
  · exact h
  · rename_i hk
    exact List.nodup_append.2 ⟨h, by simp, by rintro a ha b hb rfl; simp_all⟩

theorem lookup_cons (e : String × α) (es : List (String × α)) (k : String) :
    (e :: es).lookup k = if k = e.1 then some e.2 else es.lookup k := by
  obtain ⟨j, v⟩ := e
  by_cases h : k = j
  · simp [h]
  · have hb : (k == j) = false := by simpa using h
    simp [List.lookup_cons, hb, h]

theorem lookup_upsert (es : List (String × α)) (key k : String) (value : α) :
    (upsert key value es).lookup k = if k = key then some value else es.lookup k := by
  induction es with
  | nil => rw [upsert, lookup_cons]
  | cons e rest ih =>
    rw [upsert, lookup_cons]
    by_cases hkey : e.1 = key
    · rw [if_pos hkey, lookup_cons, hkey]
      by_cases hk : k = key
      · rw [if_pos hk, if_pos hk]
      · rw [if_neg hk, if_neg hk, if_neg hk]
    · rw [if_neg hkey, lookup_cons, ih]
      by_cases hk : k = e.1
      · have hne : k ≠ key := fun h => hkey (hk.symm.trans h)
        rw [if_pos hk, if_neg hne, if_pos hk]
      · rw [if_neg hk, if_neg hk]

end Upsert

/-- A map from text to values whose keys stand in the order of their first writing. -/
structure OrderedMap (α : Type) where
  entries : List (String × α)
  nodup_keys : (entries.map Prod.fst).Nodup := by simp

namespace OrderedMap

variable {α β : Type}

/-- The map without entries. -/
def empty : OrderedMap α := ⟨[], by simp⟩

instance : Inhabited (OrderedMap α) := ⟨empty⟩

/-- Writes `value` at `key`: in place if the key is there, else at the end. -/
def insert (m : OrderedMap α) (key : String) (value : α) : OrderedMap α :=
  ⟨upsert key value m.entries, nodup_upsert m.nodup_keys key value⟩

/-- Writes a list of entries from left to right. -/
def insertAll (m : OrderedMap α) (es : List (String × α)) : OrderedMap α :=
  es.foldl (fun acc e => acc.insert e.1 e.2) m

/-- The map that a list of entries leaves, written from left to right. -/
def ofList (es : List (String × α)) : OrderedMap α :=
  empty.insertAll es

/-- Writes all entries of `n` over `m`. -/
def merge (m n : OrderedMap α) : OrderedMap α :=
  m.insertAll n.entries

/-- The value at `key`. -/
def get? (m : OrderedMap α) (key : String) : Option α :=
  m.entries.lookup key

/-- The keys in order. -/
def keys (m : OrderedMap α) : List String :=
  m.entries.map Prod.fst

/-- The values in the order of their keys. -/
def values (m : OrderedMap α) : List α :=
  m.entries.map Prod.snd

/-- Whether nothing was written. -/
def isEmpty (m : OrderedMap α) : Bool :=
  m.entries.isEmpty

@[ext] theorem ext {m n : OrderedMap α} (h : m.entries = n.entries) : m = n := by
  cases m; cases n; cases h; rfl

@[simp] theorem entries_empty : (empty : OrderedMap α).entries = [] := rfl

@[simp] theorem entries_insert (m : OrderedMap α) (key : String) (value : α) :
    (m.insert key value).entries = upsert key value m.entries := rfl

/-- **Reading after a write**: the written key has the new value, every other key its old one. -/
theorem get?_insert (m : OrderedMap α) (key k : String) (value : α) :
    (m.insert key value).get? k = if k = key then some value else m.get? k :=
  lookup_upsert m.entries key k value

/-- **Columns keep their place**: a key written again stays where it is. -/
theorem keys_insert (m : OrderedMap α) (key : String) (value : α) :
    (m.insert key value).keys = if key ∈ m.keys then m.keys else m.keys ++ [key] :=
  map_fst_upsert key value m.entries

end OrderedMap

end ParcelRecords
