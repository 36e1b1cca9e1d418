import Mathlib.Data.Finset.Card
import ParcelRecords.Proofs.OrderedMap.Merge

/-!
# The last of many writes

A table is written into a map cell after cell, and keys come again. How many columns are left, and
which write is read, is told by the list of all writes: there is a column for every key, and a key
is read from the last place where it stands. A list of writes that comes in pieces, one for every
row, is searched piece by piece from the end.

## Main definitions

* `IsLastAt`: the last place of an item in a list

## Main results

* `IsLastAt.lookup_reverse`: a key is read from the last place where it is written
* `lookup_reverse_flatten`: a key is read from the last piece that writes it
* `OrderedMap.length_ofList`, `OrderedMap.length_ofList_eq_iff`: how many columns are left, and when
  no write replaces another
-/

namespace ParcelRecords

variable {α β : Type}

/-! ## Last places -/

/-- The last place of an item in a list. -/
def IsLastAt (items : List α) (item : α) (i : Nat) : Prop :=
  items[i]? = some item ∧ ∀ j, i < j → items[j]? ≠ some item

theorem IsLastAt.cons {items : List α} {item : α} {i : Nat} (h : IsLastAt items item i) (a : α) :
    IsLastAt (a :: items) item (i + 1) := by
  refine ⟨h.1, fun j hj => ?_⟩
  obtain ⟨j, rfl⟩ : ∃ j', j = j' + 1 := ⟨j - 1, by omega⟩
  exact h.2 j (by omega)

/-- An item with none like it behind stands at its last place. -/
theorem isLastAt_append_cons (before : List α) {item : α} {after : List α} (h : item ∉ after) :
    IsLastAt (before ++ item :: after) item before.length := by
  refine ⟨by simp, fun j hj hget => h ?_⟩
  obtain ⟨k, rfl⟩ : ∃ k, j = before.length + (k + 1) := ⟨j - before.length - 1, by omega⟩
  rw [List.getElem?_append_right (by omega), Nat.add_sub_cancel_left, List.getElem?_cons_succ]
    at hget
  exact List.mem_of_getElem? hget

/-- An item has only one last place. -/
theorem IsLastAt.unique {items : List α} {item : α} {i j : Nat} (hi : IsLastAt items item i)
    (hj : IsLastAt items item j) : i = j := by
  rcases Nat.lt_trichotomy i j with hlt | heq | hlt
  · exact absurd hj.1 (hi.2 j hlt)
  · exact heq
  · exact absurd hi.1 (hj.2 i hlt)

/-- Where nothing stands twice, every place is the last one of its item. -/
theorem isLastAt_of_nodup {items : List α} {item : α} {i : Nat} (h : items.Nodup)
    (hi : items[i]? = some item) : IsLastAt items item i := by
  refine ⟨hi, fun j hj hget => ?_⟩
  have hlt : i < items.length := (List.getElem?_eq_some_iff.1 hi).1
  have hij : i = j := (List.getElem?_inj hlt h).1 (hi.trans hget.symm)
  omega

/-- Whatever stands in a list has a last place in it. -/
theorem exists_isLastAt {items : List α} {item : α} (h : item ∈ items) :
    ∃ i, IsLastAt items item i := by
  induction items with
  | nil => cases h
  | cons a rest ih =>
    by_cases hrest : item ∈ rest
    · obtain ⟨i, hi⟩ := ih hrest
      exact ⟨i + 1, hi.cons a⟩
    · -- only the first place is left
      obtain rfl | hmem := List.mem_cons.1 h
      · refine ⟨0, rfl, fun j hj hget => hrest ?_⟩
        obtain ⟨j, rfl⟩ : ∃ j', j = j' + 1 := ⟨j - 1, by omega⟩
        exact List.mem_of_getElem? hget
      · exact absurd hmem hrest

/-- Items that are renamed without becoming equal keep their last places. -/
theorem IsLastAt.map {items : List α} {item : α} {i : Nat} (h : IsLastAt items item i)
    {f : α → β} (hf : Function.Injective f) : IsLastAt (items.map f) (f item) i := by
  refine ⟨by rw [List.getElem?_map, h.1, Option.map_some], fun j hj hget => ?_⟩
  rw [List.getElem?_map] at hget
  obtain ⟨other, hother, heq⟩ := Option.map_eq_some_iff.1 hget
  exact h.2 j hj (hf heq ▸ hother)

/-! ## Reading the last write -/

/-- **A key is read from the last place** where it is written. -/
theorem IsLastAt.lookup_reverse {es : List (String × α)} {key : String} {i : Nat} {value : α}
    (h : IsLastAt (es.map Prod.fst) key i) (hvalue : es[i]? = some (key, value)) :
    es.reverse.lookup key = some value := by
  have hlt : i < es.length := (List.getElem?_eq_some_iff.1 hvalue).1
  -- what is written behind the last place has other keys
  have hbehind : key ∉ (es.drop (i + 1)).map Prod.fst := by
    intro hmem
    rw [List.map_drop] at hmem
    obtain ⟨j, hj⟩ := List.mem_iff_getElem?.1 hmem
    rw [List.getElem?_drop] at hj
    exact h.2 _ (by omega) hj
  have hsplit : es = es.take i ++ (key, value) :: es.drop (i + 1) := by
    rw [← (List.getElem?_eq_some_iff.1 hvalue).2, List.getElem_cons_drop, List.take_append_drop]
  have hnone : (es.drop (i + 1)).reverse.lookup key = none := by
    apply OrderedMap.lookup_eq_none_of_not_mem
    rwa [List.map_reverse, List.mem_reverse]
  rw [hsplit, List.reverse_append, List.reverse_cons, List.append_assoc, List.lookup_append, hnone,
    Option.none_or, List.singleton_append, lookup_cons, if_pos rfl]

/-- **A key is read from the last piece** that writes it. -/
theorem lookup_reverse_flatten {pieces : List (List (String × α))} {i : Nat}
    {es : List (String × α)} {key : String} {value : α} (hpiece : pieces[i]? = some es)
    (hread : es.reverse.lookup key = some value)
    (hlater : ∀ j fs, i < j → pieces[j]? = some fs → key ∉ fs.map Prod.fst) :
    pieces.flatten.reverse.lookup key = some value := by
  induction pieces generalizing i with
  | nil => cases hpiece
  | cons first rest ih =>
    rw [List.flatten_cons, List.reverse_append, List.lookup_append]
    cases i with
    | zero =>
      cases hpiece
      -- no piece of the rest writes the key
      have hnone : rest.flatten.reverse.lookup key = none := by
        apply OrderedMap.lookup_eq_none_of_not_mem
        intro hmem
        rw [List.map_reverse, List.mem_reverse, List.map_flatten] at hmem
        obtain ⟨keys, hkeys, hmem⟩ := List.mem_flatten.1 hmem
        obtain ⟨fs, hfs, rfl⟩ := List.mem_map.1 hkeys
        obtain ⟨j, hj⟩ := List.mem_iff_getElem?.1 hfs
        exact hlater (j + 1) fs (by omega) hj hmem
      rw [hnone, Option.none_or, hread]
    | succ i =>
      have hrest := ih hpiece fun j fs hj hfs => hlater (j + 1) fs (by omega) hfs
      rw [hrest, Option.some_or]

/-! ## How many columns are left -/

namespace OrderedMap

theorem mem_keys_ofList {es : List (String × α)} {key : String} :
    key ∈ (ofList es).keys ↔ key ∈ es.map Prod.fst := by
  rw [keys_ofList, List.mem_eraseDups]

/-- **A column for every key**, however often it is written. -/
theorem length_ofList (es : List (String × α)) :
    (ofList es).entries.length = (es.map Prod.fst).toFinset.card := by
  have hkeys : (ofList es).keys.toFinset = (es.map Prod.fst).toFinset := by
    ext key
    rw [List.mem_toFinset, List.mem_toFinset, mem_keys_ofList]
  have hnodup : (ofList es).keys.Nodup := (ofList es).nodup_keys
  rw [← hkeys, List.toFinset_card_of_nodup hnodup, keys, List.length_map]

/-- There are as many columns as writes exactly if no key is written twice. -/
theorem length_ofList_eq_iff (es : List (String × α)) :
    (ofList es).entries.length = es.length ↔ (es.map Prod.fst).Nodup := by
  have hlength : es.length = (Multiset.ofList (es.map Prod.fst)).card := by
    rw [Multiset.coe_card, List.length_map]
  rw [length_ofList, hlength]
  exact Multiset.toFinset_card_eq_card_iff_nodup

end OrderedMap

end ParcelRecords
