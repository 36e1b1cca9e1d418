import ParcelRecords.Entry.Reader

/-!
# Refused entries

No value is refused without a reason. Single values are refused for one fault, and checks are put
together so that no fault is dropped.

## Main definitions

* `Checked.IsExplained`: a checked value that is accepted, or refused with a problem

## Main results

* `Entry.isExplained_read`: a refused entry has a problem
-/

namespace ParcelRecords

namespace Checked

variable {α β : Type}

/-- A checked value is explained if it is not refused without a problem. -/
def IsExplained (c : Checked α) : Prop :=
  c ≠ .refused []

theorem isExplained_accepted (a : α) : (accepted a).IsExplained :=
  fun h => by cases h

theorem isExplained_refused {problems : List Problem} (h : problems ≠ []) :
    (refused problems : Checked α).IsExplained :=
  fun heq => h (by cases heq; rfl)

theorem isExplained_fault (path : List String) (f : Fault) :
    (fault path f : Checked α).IsExplained :=
  isExplained_refused (List.cons_ne_nil _ _)

theorem IsExplained.map {c : Checked α} (h : c.IsExplained) (f : α → β) :
    (f <$> c).IsExplained := by
  cases c with
  | accepted a => exact isExplained_accepted (f a)
  | refused problems => exact isExplained_refused fun heq => h (congrArg _ heq)

theorem IsExplained.seq {f : Checked (α → β)} {c : Checked α} (hf : f.IsExplained)
    (hc : c.IsExplained) : (f <*> c).IsExplained := by
  cases f with
  | accepted f =>
    cases c with
    | accepted a => exact isExplained_accepted (f a)
    | refused problems => exact isExplained_refused fun heq => hc (congrArg _ heq)
  | refused faults =>
    -- the problems of the second part follow those of the first, which has some
    have hne : faults ≠ [] := fun heq => hf (congrArg _ heq)
    cases c with
    | accepted a => exact isExplained_refused hne
    | refused problems => exact isExplained_refused (List.append_ne_nil_of_left_ne_nil hne _)

section Members

variable {check : List String → β → Checked α} (hcheck : ∀ path b, (check path b).IsExplained)
include hcheck

theorem isExplained_list (path : List String) (n : Nat) (items : List β) :
    (list check path n items).IsExplained := by
  induction items generalizing n with
  | nil => exact isExplained_accepted []
  | cons item rest ih => exact ((hcheck _ item).map _).seq (ih _)

theorem isExplained_fields (path : List String) (members : List (String × β)) :
    (fields check path members).IsExplained := by
  induction members with
  | nil => exact isExplained_accepted []
  | cons member rest ih => exact ((hcheck _ member.2).map _).seq ih

end Members

end Checked

namespace Entry

open Checked

/-! ## Single values -/

theorem isExplained_readString (path : List String) (value : Json) :
    (readString path value).IsExplained := by
  unfold readString
  split
  · exact isExplained_accepted _
  · exact isExplained_fault _ _

theorem isExplained_readInteger (path : List String) (value : Json) :
    (readInteger path value).IsExplained := by
  unfold readInteger
  split
  case h_3 x =>
    split
    · split
      · exact isExplained_accepted _
      · exact isExplained_fault _ _
    · exact isExplained_fault _ _
  case h_4 s =>
    split
    · exact isExplained_fault _ _
    · split
      · exact isExplained_accepted _
      · exact isExplained_fault _ _
  case h_5 => exact isExplained_fault _ _
  all_goals exact isExplained_accepted _

theorem isExplained_readBoolean (path : List String) (value : Json) :
    (readBoolean path value).IsExplained := by
  unfold readBoolean
  split
  case h_1 b => exact isExplained_accepted b
  case h_5 => exact isExplained_fault _ _
  all_goals
    split
    · exact isExplained_accepted _
    · exact isExplained_fault _ _

theorem isExplained_readScalar (path : List String) (value : Json) :
    (readScalar path value).IsExplained := by
  unfold readScalar
  split
  case h_5 => exact isExplained_refused (List.cons_ne_nil _ _)
  all_goals exact isExplained_accepted _

theorem isExplained_readIdentifier (path : List String) (value : Json) :
    (readIdentifier path value).IsExplained := by
  unfold readIdentifier
  split
  · exact isExplained_accepted _
  · split
    · exact isExplained_accepted _
    · exact isExplained_refused (List.append_ne_nil_of_right_ne_nil _ (List.cons_ne_nil _ _))

theorem isExplained_readShape (path : List String) (value : Json) :
    (readShape path value).IsExplained := by
  unfold readShape
  split
  · split
    · exact isExplained_accepted _
    · exact isExplained_fault _ _
  · exact isExplained_fault _ _

theorem isExplained_readMethod (path : List String) (value : Json) :
    (readMethod path value).IsExplained := by
  unfold readMethod
  split
  · split
    · exact isExplained_accepted _
    · exact isExplained_fault _ _
  · exact isExplained_fault _ _

/-! ## Composed values -/

section Composed

variable {α : Type} {check : List String → Json → Checked α}
  (hcheck : ∀ path value, (check path value).IsExplained)
include hcheck

theorem isExplained_readList (path : List String) (value : Json) :
    (readList check path value).IsExplained := by
  unfold readList
  split
  · exact isExplained_list hcheck _ _ _
  · exact isExplained_fault _ _

theorem isExplained_readObject (path : List String) (value : Json) :
    (readObject check path value).IsExplained := by
  unfold readObject
  split
  · exact (isExplained_fields hcheck _ _).map _
  · exact isExplained_fault _ _

theorem isExplained_readNullable (path : List String) (value : Json) :
    (readNullable check path value).IsExplained := by
  unfold readNullable
  split
  · exact isExplained_accepted _
  · exact (hcheck _ _).map _

theorem isExplained_readKey (fields : OrderedMap Json) (path : List String) (key : Key)
    (default : α) : (readKey fields path key default check).IsExplained := by
  unfold readKey
  split
  · exact hcheck _ _
  · exact isExplained_accepted _

end Composed

/-! ## Entries -/

theorem isExplained_readRowFilter (path : List String) (value : Json) :
    (readRowFilter path value).IsExplained := by
  unfold readRowFilter
  split
  · exact isExplained_fault _ _
  · refine IsExplained.seq (.seq (.seq (.map ?_ _) ?_) ?_) ?_
    · exact isExplained_readKey (isExplained_readList isExplained_readScalar) _ _ _ _
    · exact isExplained_readKey (isExplained_readList isExplained_readInteger) _ _ _ _
    · exact isExplained_readKey isExplained_readBoolean _ _ _ _
    · exact isExplained_readKey (isExplained_readList isExplained_readInteger) _ _ _ _

/-- **A refused entry has a problem**. -/
theorem isExplained_read (value : Json) : (read value).IsExplained := by
  unfold read
  split
  · exact isExplained_fault _ _
  · have htext := isExplained_readNullable isExplained_readString
    have htexts := isExplained_readNullable (isExplained_readObject isExplained_readString)
    have hidentifier := isExplained_readNullable isExplained_readIdentifier
    -- one goal for each of the eleven fields, in the order in which they are read
    refine IsExplained.seq (.seq (.seq (.seq (.seq (.seq (.seq (.seq (.seq (.seq (.map ?_ _)
      ?_) ?_) ?_) ?_) ?_) ?_) ?_) ?_) ?_) ?_
    · exact isExplained_readKey htext _ _ _ _
    · exact isExplained_readKey (isExplained_readNullable
        (isExplained_readList isExplained_readScalar)) _ _ _ _
    · exact isExplained_readKey (isExplained_readNullable isExplained_readShape) _ _ _ _
    · exact isExplained_readKey htexts _ _ _ _
    · exact isExplained_readKey htexts _ _ _ _
    · exact isExplained_readKey (isExplained_readNullable isExplained_readRowFilter) _ _ _ _
    · exact isExplained_readKey (isExplained_readNullable
        (isExplained_readObject fun _ value => isExplained_accepted value)) _ _ _ _
    · exact isExplained_readKey isExplained_readMethod _ _ _ _
    · exact isExplained_readKey hidentifier _ _ _ _
    · exact isExplained_readKey hidentifier _ _ _ _
    · exact isExplained_readKey htext _ _ _ _

end Entry

end ParcelRecords
