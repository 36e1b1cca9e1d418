import Mathlib.Data.List.Flatten
import Mathlib.Data.List.Nodup
import ParcelRecords.Markup.Focus

/-!
# Elements in document order

The elements inside an element are its children in order, each followed by the elements inside it.
No two of them have the same address, so every one is listed once, whatever else looks like it. A
list of elements that is made child by child stands in document order if for every child it takes
no more than the child and elements inside it, in their order.

## Main definitions

* `Focus.ListsOnce`: the elements with a property, each once and in document order
* `Focus.childrenNamed`: the children of some names

## Main results

* `Focus.mem_childElements`: the children of an element are those whose parent it is
* `Focus.elements_eq`: the elements inside, child by child
* `Focus.nodup_addresses`: no two elements inside have the same address
* `Focus.listsOnce_flatMap`: what is taken child by child
-/

namespace ParcelRecords.Markup.Focus

/-! ## Children -/

section Children

variable {tag : Tag} {above : List Frame} {before nodes : List Node} {f c : Focus}

theorem map_here_elementsAfter (tag : Tag) (above : List Frame) (before nodes : List Node) :
    (elementsAfter tag above before nodes).map here = nodes.filterMap Node.element? := by
  induction nodes generalizing before with
  | nil => rfl
  | cons n rest ih =>
    cases n with
    | text kind content => exact ih _
    | element t children => exact congrArg (⟨t, children⟩ :: ·) (ih _)

/-- The children in their places are the child elements. -/
theorem map_here_childElements (f : Focus) : f.childElements.map here = f.here.childElements :=
  map_here_elementsAfter ..

/-- Elements among nodes have the nodes before and behind them beside them. -/
theorem mem_elementsAfter : c ∈ elementsAfter tag above before nodes ↔
    ∃ front back, nodes = front ++ .element c.here.tag c.here.children :: back ∧
      c.above = ⟨tag, front.reverse ++ before, back⟩ :: above := by
  -- the nodes that were passed pile up before the others, nearest first
  induction nodes generalizing before with
  | nil => simp [elementsAfter]
  | cons n rest ih =>
    constructor
    · intro h
      cases n with
      | text kind content =>
        obtain ⟨front, back, rfl, habove⟩ := ih.1 h
        exact ⟨.text kind content :: front, back, rfl, by simpa using habove⟩
      | element t children =>
        rcases List.mem_cons.1 h with rfl | h
        · exact ⟨[], rest, rfl, rfl⟩
        · obtain ⟨front, back, rfl, habove⟩ := ih.1 h
          exact ⟨.element t children :: front, back, rfl, by simpa using habove⟩
    · rintro ⟨front, back, hsplit, habove⟩
      cases front with
      | nil =>
        obtain ⟨rfl, rfl⟩ := List.cons.inj hsplit
        obtain ⟨here, _⟩ := c
        obtain rfl := habove
        exact List.mem_cons_self
      | cons m front =>
        obtain ⟨rfl, rfl⟩ := List.cons.inj hsplit
        have hrest : c ∈ elementsAfter tag above (n :: before)
            (front ++ .element c.here.tag c.here.children :: back) :=
          ih.2 ⟨front, back, rfl, by simpa using habove⟩
        cases n with
        | text kind content => exact hrest
        | element t children => exact List.mem_cons_of_mem _ hrest

/-- **The children of an element** are those whose parent it is. -/
theorem mem_childElements : c ∈ f.childElements ↔ c.parent? = some f := by
  rw [childElements, mem_elementsAfter]
  constructor
  · rintro ⟨front, back, hnodes, habove⟩
    rw [parent?, habove]
    simp [parentOf, ← hnodes]
  · intro h
    obtain ⟨here, above⟩ := c
    cases above with
    | nil => cases h
    | cons frame above =>
      cases h
      exact ⟨frame.before.reverse, frame.after, rfl, by simp [parentOf]⟩

/-- The children of one of the names, in their places. -/
def childrenNamed (f : Focus) (names : List String) : List Focus :=
  f.childElements.filter fun c => c.name ∈ names

theorem map_here_childrenNamed (f : Focus) (names : List String) :
    (f.childrenNamed names).map here = f.here.childrenNamed names := by
  rw [childrenNamed, Element.childrenNamed, ← map_here_childElements, List.filter_map]
  rfl

theorem mem_childrenNamed {names : List String} :
    c ∈ f.childrenNamed names ↔ c.parent? = some f ∧ c.name ∈ names := by
  rw [childrenNamed, List.mem_filter, mem_childElements, decide_eq_true_iff]

end Children

/-! ## Elements inside -/

theorem walkList_eq (tag : Tag) (above : List Frame) (before nodes : List Node) :
    walkList tag above before nodes =
      (elementsAfter tag above before nodes).flatMap fun c => c :: c.elements := by
  induction nodes generalizing before with
  | nil => rw [walkList, elementsAfter, List.flatMap_nil]
  | cons n rest ih =>
    rw [walkList, ih]
    cases n with
    | text kind content => rw [walk, elementsAfter, List.nil_append]
    | element t children => rw [walk, elementsAfter, List.flatMap_cons]; rfl

/-- **The elements inside** are the children, each followed by the elements inside it. -/
theorem elements_eq (f : Focus) : f.elements = f.childElements.flatMap fun c => c :: c.elements :=
  walkList_eq ..

/-! ## Addresses -/

mutual

/-- The address of an element of a node goes through the place of the node. -/
theorem exists_address_of_mem_walk {tag : Tag} {above : List Frame} {before after : List Node}
    {n : Node} {f : Focus} (h : f ∈ walk tag above before after n) :
    ∃ inner, f.address = inner ++ before.length :: above.map (·.before.length) := by
  match n with
  | .text _ _ =>
    rw [walk] at h
    cases h
  | .element t children =>
    rw [walk] at h
    rcases List.mem_cons.1 h with rfl | h
    · exact ⟨[], rfl⟩
    · obtain ⟨inner, i, -, haddress⟩ := exists_address_of_mem_walkList h
      exact ⟨inner ++ [i], by rw [haddress, List.append_assoc]; rfl⟩

/-- The address of an element among nodes goes through a place that is not before the first. -/
theorem exists_address_of_mem_walkList {tag : Tag} {above : List Frame} {before nodes : List Node}
    {f : Focus} (h : f ∈ walkList tag above before nodes) :
    ∃ inner i, before.length ≤ i ∧
      f.address = inner ++ i :: above.map (·.before.length) := by
  match nodes with
  | [] =>
    rw [walkList] at h
    cases h
  | n :: rest =>
    rw [walkList] at h
    rcases List.mem_append.1 h with h | h
    · obtain ⟨inner, haddress⟩ := exists_address_of_mem_walk h
      exact ⟨inner, before.length, Nat.le_refl _, haddress⟩
    · obtain ⟨inner, i, hle, haddress⟩ := exists_address_of_mem_walkList h
      exact ⟨inner, i, Nat.le_of_succ_le hle, haddress⟩

end

mutual

theorem nodup_addresses_walk (tag : Tag) (above : List Frame) (before after : List Node)
    (n : Node) : ((walk tag above before after n).map address).Nodup := by
  match n with
  | .text _ _ =>
    rw [walk]
    exact List.nodup_nil
  | .element t children =>
    rw [walk, List.map_cons, List.nodup_cons]
    refine ⟨fun hmem => ?_, nodup_addresses_walkList t _ [] children⟩
    -- inside an element addresses are longer than its own
    obtain ⟨f, hf, heq⟩ := List.mem_map.1 hmem
    obtain ⟨inner, i, -, haddress⟩ := exists_address_of_mem_walkList hf
    have hlength := congrArg List.length (haddress.symm.trans heq)
    simp [address] at hlength
    omega

theorem nodup_addresses_walkList (tag : Tag) (above : List Frame) (before nodes : List Node) :
    ((walkList tag above before nodes).map address).Nodup := by
  match nodes with
  | [] =>
    rw [walkList]
    exact List.nodup_nil
  | n :: rest =>
    rw [walkList, List.map_append]
    refine (nodup_addresses_walk tag above before rest n).append
      (nodup_addresses_walkList tag above (n :: before) rest) fun a ha ha' => ?_
    -- addresses in the rest go through a later place
    obtain ⟨f, hf, rfl⟩ := List.mem_map.1 ha
    obtain ⟨f', hf', heq⟩ := List.mem_map.1 ha'
    obtain ⟨inner, haddress⟩ := exists_address_of_mem_walk hf
    obtain ⟨inner', i, hle, haddress'⟩ := exists_address_of_mem_walkList hf'
    rw [haddress, haddress'] at heq
    obtain ⟨-, hplace⟩ := List.append_inj' heq (by simp)
    have hi : i = before.length := (List.cons.inj hplace).1
    rw [hi, List.length_cons] at hle
    omega

end

/-- **No two elements inside** have the same address. -/
theorem nodup_addresses (f : Focus) : (f.elements.map address).Nodup :=
  nodup_addresses_walkList ..

theorem nodup_elements (f : Focus) : f.elements.Nodup :=
  f.nodup_addresses.of_map address

/-! ## Lists in document order -/

/-- The elements inside `f` that have a property, each once and in document order. -/
structure ListsOnce (f : Focus) (P : Focus → Prop) (gs : List Focus) : Prop where
  nodup : gs.Nodup
  inOrder : gs.Sublist f.elements
  mem_iff : ∀ g, g ∈ gs ↔ P g

/-- **What is taken child by child**, for every child no more than the child and elements inside it,
is listed once and in document order. -/
theorem listsOnce_flatMap {f : Focus} {part : Focus → List Focus} {P : Focus → Prop}
    (hpart : ∀ c ∈ f.childElements, (part c).Sublist (c :: c.elements))
    (hmem : ∀ g, g ∈ f.childElements.flatMap part ↔ P g) :
    f.ListsOnce P (f.childElements.flatMap part) := by
  have hsublist : (f.childElements.flatMap part).Sublist f.elements := by
    rw [elements_eq]
    exact List.Sublist.flatMap_right _ hpart
  exact ⟨hsublist.nodup f.nodup_elements, hsublist, hmem⟩

theorem childElements_sublist (f : Focus) : f.childElements.Sublist f.elements := by
  have hfirst := List.Sublist.flatMap_right f.childElements
    (f := fun c => [c]) (g := fun c => c :: c.elements)
    fun c _ => List.singleton_sublist.2 List.mem_cons_self
  rwa [List.flatMap_singleton', ← elements_eq] at hfirst

/-- The children of some names are listed once and in document order. -/
theorem listsOnce_childrenNamed (f : Focus) (names : List String) :
    f.ListsOnce (fun c => c.parent? = some f ∧ c.name ∈ names) (f.childrenNamed names) := by
  have hsublist : (f.childrenNamed names).Sublist f.elements :=
    List.filter_sublist.trans f.childElements_sublist
  exact ⟨hsublist.nodup f.nodup_elements, hsublist, fun c => mem_childrenNamed⟩

end ParcelRecords.Markup.Focus
