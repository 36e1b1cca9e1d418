import ParcelRecords.Entry.Reader

/-!
# Checks that come out alike

Two checked values are alike if both are accepted with one value, or both are refused for the same
faults in the same order; the places of the faults may differ. A check that puts up with a change of
its input is one that comes out alike on both sides of the change, wherever the input stands. Checks
are put together from such parts without losing this.

## Main definitions

* `Checked.Alike`: checked values with the same value and the same faults
* `Entry.Respects`: a check comes out alike on values that stand for each other

## Main results

* `Checked.Alike.map`, `Checked.Alike.seq`: alike parts make alike wholes
* `Entry.respects_readInteger` and the like: no single check looks at the place of its value
* `Entry.Respects.list`, `Entry.Respects.object`, `Entry.Respects.nullable`: nor do composed checks
-/

namespace ParcelRecords

namespace Checked

variable {α β : Type}

/-- **Alike** are checked values with the same value, if any, and the same faults. -/
structure Alike (c d : Checked α) : Prop where
  value?_eq : d.value? = c.value?
  faults_eq : d.problems.map Problem.fault = c.problems.map Problem.fault

theorem value?_seq (f : Checked (α → β)) (c : Checked α) :
    (f <*> c).value? = f.value?.bind fun g => c.value?.map g := by
  cases f <;> cases c <;> rfl

theorem problems_seq (f : Checked (α → β)) (c : Checked α) :
    (f <*> c).problems = f.problems ++ c.problems := by
  cases f with
  | accepted f => cases c <;> rfl
  | refused ps =>
    cases c with
    | accepted a => exact (List.append_nil ps).symm
    | refused qs => rfl

namespace Alike

theorem refl (c : Checked α) : c.Alike c :=
  ⟨rfl, rfl⟩

theorem trans {c d e : Checked α} (hcd : c.Alike d) (hde : d.Alike e) : c.Alike e :=
  ⟨hde.value?_eq.trans hcd.value?_eq, hde.faults_eq.trans hcd.faults_eq⟩

/-- One fault is the same fault at any place. -/
theorem fault (p q : List String) (f : Fault) :
    (Checked.fault p f : Checked α).Alike (Checked.fault q f) :=
  ⟨rfl, rfl⟩

theorem map {c d : Checked α} (h : c.Alike d) (f : α → β) : (f <$> c).Alike (f <$> d) := by
  have hvalue (e : Checked α) : (f <$> e).value? = e.value?.map f := by cases e <;> rfl
  have hproblems (e : Checked α) : (f <$> e).problems = e.problems := by cases e <;> rfl
  constructor
  · rw [hvalue, hvalue, h.value?_eq]
  · rw [hproblems, hproblems, h.faults_eq]

theorem seq {f g : Checked (α → β)} {c d : Checked α} (hfg : f.Alike g) (hcd : c.Alike d) :
    (f <*> c).Alike (g <*> d) := by
  constructor
  · rw [value?_seq, value?_seq, hfg.value?_eq, hcd.value?_eq]
  · rw [problems_seq, problems_seq, List.map_append, List.map_append, hfg.faults_eq, hcd.faults_eq]

/-- Alike values have equally many problems. -/
theorem length_problems {c d : Checked α} (h : c.Alike d) :
    d.problems.length = c.problems.length := by
  simpa using congrArg List.length h.faults_eq

theorem eq_accepted {c d : Checked α} (h : c.Alike d) {a : α} (hc : c = accepted a) :
    d = accepted a := by
  have hd := h.value?_eq
  rw [hc] at hd
  cases d with
  | accepted b => exact congrArg accepted (Option.some.inj hd)
  | refused ps => cases hd

theorem exists_refused {c d : Checked α} (h : c.Alike d) {ps : List Problem}
    (hc : c = refused ps) :
    ∃ qs, d = refused qs ∧ qs.map Problem.fault = ps.map Problem.fault := by
  obtain ⟨hvalue, hfaults⟩ := h
  rw [hc] at hvalue hfaults
  cases d with
  | accepted b => cases hvalue
  | refused qs => exact ⟨qs, rfl, hfaults⟩

section Members

variable {check : List String → β → Checked α} (hcheck : ∀ p q b, (check p b).Alike (check q b))
include hcheck

theorem list (p q : List String) (n : Nat) (items : List β) :
    (Checked.list check p n items).Alike (Checked.list check q n items) := by
  induction items generalizing n with
  | nil => exact refl _
  | cons item rest ih => exact ((hcheck _ _ item).map List.cons).seq (ih _)

theorem fields (p q : List String) (members : List (String × β)) :
    (Checked.fields check p members).Alike (Checked.fields check q members) := by
  induction members with
  | nil => exact refl _
  | cons member rest ih =>
    exact ((hcheck _ _ member.2).map fun a => List.cons (member.1, a)).seq ih

end Members

end Alike

end Checked

namespace Entry

open Checked

/-- A check **respects** a relation if it comes out alike on values that stand in it, at any
places. -/
def Respects {α : Type} (same : Json → Json → Prop) (check : List String → Json → Checked α) :
    Prop :=
  ∀ p q v w, same v w → (check p v).Alike (check q w)

/-! ## Single values -/

theorem respects_readString : Respects Eq readString := by
  rintro p q v _ rfl
  cases v with
  | str s => exact .refl _
  | _ => exact .fault p q _

theorem respects_readInteger : Respects Eq readInteger := by
  rintro p q v _ rfl
  cases v with
  | int i => exact .refl _
  | bool b => exact .refl _
  | float x =>
    simp only [readInteger]
    split
    · cases x.toInt? with
      | some i => exact .refl _
      | none => exact .fault p q _
    · exact .fault p q _
  | str s =>
    simp only [readInteger]
    split
    · exact .fault p q _
    · cases Text.integer? s with
      | some i => exact .refl _
      | none => exact .fault p q _
  | _ => exact .fault p q _

theorem respects_readBoolean : Respects Eq readBoolean := by
  rintro p q v _ rfl
  cases v with
  | bool b => exact .refl _
  | int i =>
    simp only [readBoolean]
    cases booleanInt? i with
    | some b => exact .refl _
    | none => exact .fault p q _
  | float x =>
    simp only [readBoolean]
    cases x.toInt?.bind booleanInt? with
    | some b => exact .refl _
    | none => exact .fault p q _
  | str s =>
    simp only [readBoolean]
    cases booleanWord? s with
    | some b => exact .refl _
    | none => exact .fault p q _
  | _ => exact .fault p q _

theorem respects_readScalar : Respects Eq readScalar := by
  rintro p q v _ rfl
  cases v with
  | null | arr _ | obj _ => exact ⟨rfl, rfl⟩
  | _ => exact .refl _

theorem respects_readIdentifier : Respects Eq readIdentifier := by
  rintro p q v _ rfl
  have hinteger := respects_readInteger (p ++ ["int"]) (q ++ ["int"]) v v rfl
  unfold readIdentifier
  split
  · exact .refl _
  · -- what is no text is read as an integer, with one more fault if it is none
    cases hp : readInteger (p ++ ["int"]) v with
    | accepted i =>
      rw [hinteger.eq_accepted hp]
      exact .refl _
    | refused ps =>
      obtain ⟨qs, hq, hfaults⟩ := hinteger.exists_refused hp
      rw [hq]
      exact ⟨rfl, by simp only [problems, List.map_append, hfaults, List.map_cons]⟩

theorem respects_readShape : Respects Eq readShape := by
  rintro p q v _ rfl
  cases v with
  | str s =>
    simp only [readShape]
    cases Shape.ofName? (Text.lower (Text.trim s)) with
    | some shape => exact .refl _
    | none => exact .fault p q _
  | _ => exact .fault p q _

theorem respects_readMethod : Respects Eq readMethod := by
  rintro p q v _ rfl
  cases v with
  | str s =>
    simp only [readMethod]
    cases Method.ofName? (Text.lower (Text.trim s)) with
    | some m => exact .refl _
    | none => exact .fault p q _
  | _ => exact .fault p q _

theorem respects_readAny : Respects Eq readAny := by
  rintro p q v _ rfl
  exact .refl _

/-! ## Composed values -/

section Composed

variable {α : Type} {check : List String → Json → Checked α}

theorem Respects.list (h : Respects Eq check) : Respects Eq (readList check) := by
  rintro p q v _ rfl
  cases v with
  | arr items => exact Alike.list (fun p q v => h p q v v rfl) p q 0 items
  | _ => exact .fault p q _

theorem Respects.object (h : Respects Eq check) : Respects Eq (readObject check) := by
  rintro p q v _ rfl
  unfold readObject
  cases v.fields? with
  | none => exact .fault p q _
  | some fields => exact (Alike.fields (fun p q v => h p q v v rfl) p q fields.entries).map _

/-- A value that may be missing is null on both sides or on neither. -/
theorem Respects.nullable {same : Json → Json → Prop} (h : Respects same check)
    (hnull : ∀ v w, same v w → (v = .null ↔ w = .null)) : Respects same (readNullable check) := by
  intro p q v w hvw
  -- null is accepted without the check, and anything else goes to it
  by_cases hv : v = .null
  · rw [hv, (hnull v w hvw).1 hv]
    exact .refl _
  · have hw : w ≠ .null := mt (hnull v w hvw).2 hv
    have hread (path : List String) (u : Json) (hu : u ≠ .null) :
        readNullable check path u = (check path u).map some := by
      cases u with
      | null => exact absurd rfl hu
      | _ => rfl
    rw [hread p v hv, hread q w hw]
    exact (h p q v w hvw).map some

/-- A value that is the same on both sides is null on both or on neither. -/
theorem Respects.nullable_eq (h : Respects Eq check) : Respects Eq (readNullable check) :=
  h.nullable fun _ _ hvw => by rw [hvw]

end Composed

end Entry

end ParcelRecords
