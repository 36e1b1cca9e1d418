import ParcelRecords.Json.Reader
import ParcelRecords.Proofs.OrderedMap.Merge
import ParcelRecords.Proofs.Text.Decimal

/-!
# Regular values

A value that can stand in a JSON text as it is: its integers are not too long to be read, and no
object has a field twice. Reading gives regular values only.

## Main definitions

* `Json.IsRegular`: no integer is too long, and no field is repeated
* `Json.ReadsRegular`: what the three readers give with so much fuel is regular

## Main results

* `Json.isRegular_of_read`: what is read is regular
-/

namespace ParcelRecords

/-! ## Results of readings -/

/-- The result of a mapped reading comes from a reading. -/
theorem exists_of_map_eq_ok {ε α β : Type} {f : α → β} {x : Except ε α} {b : β}
    (h : x.map f = .ok b) : ∃ a, x = .ok a ∧ f a = b := by
  cases x with
  | error e => cases h
  | ok a =>
    cases h
    exact ⟨a, rfl, rfl⟩

theorem ok_bind {ε α β : Type} (a : α) (f : α → Except ε β) : (.ok a >>= f) = f a := rfl

theorem exists_of_bind_eq_ok {ε α β : Type} {x : Except ε α} {f : α → Except ε β} {b : β}
    (h : (x >>= f) = .ok b) : ∃ a, x = .ok a ∧ f a = .ok b := by
  cases x with
  | error e => cases h
  | ok a => exact ⟨a, rfl, h⟩

theorem cases_of_bind_eq_error {ε α β : Type} {x : Except ε α} {f : α → Except ε β} {e : ε}
    (h : (x >>= f) = .error e) : x = .error e ∨ ∃ a, x = .ok a ∧ f a = .error e := by
  cases x with
  | error e' =>
    cases h
    exact .inl rfl
  | ok a => exact .inr ⟨a, rfl, h⟩

/-- A reading whose errors are worded anew succeeds as it did. -/
theorem eq_ok_of_mapError {ε ε' α : Type} {f : ε → ε'} {x : Except ε α} {a : α}
    (h : x.mapError f = .ok a) : x = .ok a := by
  cases x with
  | error e => cases h
  | ok a' =>
    cases h
    rfl

theorem exists_of_mapError_eq_error {ε ε' α : Type} {f : ε → ε'} {x : Except ε α} {e' : ε'}
    (h : x.mapError f = .error e') : ∃ e, x = .error e ∧ f e = e' := by
  cases x with
  | error e =>
    cases h
    exact ⟨e, rfl, rfl⟩
  | ok a => cases h

namespace Json

/-- A value whose integers are not too long to be read, and whose objects have no field twice. -/
inductive IsRegular : Json → Prop where
  | null : IsRegular .null
  | bool (b : Bool) : IsRegular (.bool b)
  | int {i : Int} (hlength : (Nat.toDigits 10 i.natAbs).length ≤ maxIntDigits) :
      IsRegular (.int i)
  | float (x : Binary64) : IsRegular (.float x)
  | str (s : String) : IsRegular (.str s)
  | arr {items : List Json} (hitems : ∀ item ∈ items, IsRegular item) : IsRegular (.arr items)
  | obj {fields : List (String × Json)} (hkeys : (fields.map Prod.fst).Nodup)
      (hfields : ∀ f ∈ fields, IsRegular f.2) : IsRegular (.obj fields)

/-! ## Numbers and words -/

/-- The digits in front of the point are digits. -/
theorem isDigit_of_readWhole {cs whole rest : List Char} (h : readWhole cs = some (whole, rest)) :
    ∀ d ∈ whole, d.isDigit = true := by
  have htake (cs : List Char) : ∀ d ∈ cs.takeWhile Char.isDigit, d.isDigit = true :=
    List.all_eq_true.1 List.all_takeWhile
  unfold readWhole at h
  split at h
  · cases h
    exact List.forall_mem_singleton.2 rfl
  · split at h
    · cases h
      exact htake _
    · cases h
  · cases h

theorem isRegular_of_readNumber {negative : Bool} {cs rest : List Char} {v : Json}
    (h : readNumber negative cs = .ok (v, rest)) : v.IsRegular := by
  unfold readNumber at h
  split at h
  · cases h
  · rename_i whole afterWhole hwhole
    simp only at h
    split at h
    · split at h
      · cases h
      · -- an integer has no more digits than were read
        rename_i hshort
        cases h
        have hlt := Text.decimalValue_lt (isDigit_of_readWhole hwhole)
        have hle : 10 ^ whole.length ≤ 10 ^ maxIntDigits :=
          Nat.pow_le_pow_right (by decide) (Nat.not_lt.1 hshort)
        have habs : (if negative then -(Text.decimalValue whole : Int)
            else Text.decimalValue whole).natAbs = Text.decimalValue whole := by
          cases negative <;> simp
        refine .int ?_
        rw [habs]
        exact Text.length_toDigits_le (by decide) (Nat.lt_of_lt_of_le hlt hle)
    · cases h
      exact .float _

theorem isRegular_of_mem_wordValues : ∀ w ∈ wordValues, w.2.IsRegular := by
  simp only [wordValues, List.mem_cons, List.not_mem_nil, or_false, forall_eq_or_imp, forall_eq]
  exact ⟨.null, .bool _, .bool _, .float _, .float _, .float _⟩

theorem isRegular_of_readAtom {cs rest : List Char} {v : Json}
    (h : readAtom cs = .ok (v, rest)) : v.IsRegular := by
  unfold readAtom at h
  split at h
  · rename_i r hword
    obtain ⟨w, hmem, hw⟩ := List.exists_of_findSome?_eq_some hword
    obtain ⟨after, -, rfl⟩ := Option.map_eq_some_iff.1 hw
    cases h
    exact isRegular_of_mem_wordValues w hmem
  · split at h
    · exact isRegular_of_readNumber h
    · exact isRegular_of_readNumber h

/-! ## Values -/

/-- With so much fuel what is read is regular: a value, the items of a list, the fields of an
object. -/
structure ReadsRegular (fuel : Nat) : Prop where
  value : ∀ cs r, readValue fuel cs = .ok r → r.1.IsRegular
  items : ∀ cs r, readItems fuel cs = .ok r → ∀ item ∈ r.1, item.IsRegular
  fields : ∀ cs r, readFields fuel cs = .ok r → ∀ f ∈ r.1, f.2.IsRegular

section Step

variable {fuel : Nat} (h : ReadsRegular fuel) {cs : List Char}

include h

theorem ReadsRegular.readValue_succ {r : Json × List Char}
    (hread : readValue (fuel + 1) cs = .ok r) : r.1.IsRegular := by
  unfold readValue at hread
  split at hread
  · obtain ⟨s, -, rfl⟩ := exists_of_map_eq_ok hread
    exact .str _
  · split at hread
    · cases hread
      exact .arr (by simp)
    · obtain ⟨items, hitems, rfl⟩ := exists_of_map_eq_ok hread
      exact .arr (h.items _ _ hitems)
  · split at hread
    · cases hread
      exact .obj List.nodup_nil (by simp)
    · obtain ⟨fields, hfields, rfl⟩ := exists_of_map_eq_ok hread
      refine .obj (OrderedMap.ofList fields.1).nodup_keys fun f hf => ?_
      exact h.fields _ _ hfields f (OrderedMap.mem_of_mem_entries_ofList hf)
  · exact isRegular_of_readAtom hread

theorem ReadsRegular.readItems_succ {r : List Json × List Char}
    (hread : readItems (fuel + 1) cs = .ok r) : ∀ item ∈ r.1, item.IsRegular := by
  unfold readItems at hread
  obtain ⟨⟨item, rest⟩, hvalue, hread⟩ := exists_of_bind_eq_ok hread
  have hitem := h.value _ _ hvalue
  simp only at hread
  split at hread
  · cases hread
    simpa using hitem
  · obtain ⟨items, hitems, rfl⟩ := exists_of_map_eq_ok hread
    exact List.forall_mem_cons.2 ⟨hitem, h.items _ _ hitems⟩
  · cases hread

theorem ReadsRegular.readFields_succ {r : List (String × Json) × List Char}
    (hread : readFields (fuel + 1) cs = .ok r) : ∀ f ∈ r.1, f.2.IsRegular := by
  unfold readFields at hread
  split at hread
  · obtain ⟨⟨key, rest⟩, -, hread⟩ := exists_of_bind_eq_ok hread
    simp only at hread
    split at hread
    · obtain ⟨⟨value, rest⟩, hvalue, hread⟩ := exists_of_bind_eq_ok hread
      have hfield := h.value _ _ hvalue
      simp only at hread
      split at hread
      · cases hread
        simpa using hfield
      · obtain ⟨fields, hfields, rfl⟩ := exists_of_map_eq_ok hread
        exact List.forall_mem_cons.2 ⟨hfield, h.fields _ _ hfields⟩
      · cases hread
    · cases hread
  · cases hread

end Step

/-- However much fuel there is, what is read is regular. -/
theorem readsRegular (fuel : Nat) : ReadsRegular fuel := by
  induction fuel with
  | zero =>
    refine ⟨fun cs r h => ?_, fun cs r h => ?_, fun cs r h => ?_⟩
    · simp [readValue, malformedAt] at h
    · simp [readItems, malformedAt] at h
    · simp [readFields, malformedAt] at h
  | succ fuel ih =>
    exact ⟨fun _ _ => ih.readValue_succ, fun _ _ => ih.readItems_succ,
      fun _ _ => ih.readFields_succ⟩

/-- **What is read is regular**. -/
theorem isRegular_of_read {s : String} {v : Json} (h : read s = .ok v) : v.IsRegular := by
  unfold read at h
  simp only at h
  split at h
  · cases h
  · rename_i value rest hread
    split at h
    · cases h
      exact (readsRegular _).value _ _ hread
    · cases h

end Json

end ParcelRecords
