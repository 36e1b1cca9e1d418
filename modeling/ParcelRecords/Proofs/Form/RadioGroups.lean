import ParcelRecords.Form.Control

/-!
# Groups of radio buttons

The radio buttons of one name on a page are one control. Which of them is read does not matter: the
value is that of the first checked button of the group in document order, and there is none if no
button of the group is checked. Nothing else on the page is looked at. Input fields of other types
or names may be checked or not, changed, added or taken away; two pages whose groups show the same
give the same value.

## Main definitions

* `Form.IsButton`: a radio button of a group
* `Form.groupStates`: what the buttons of a group show
* `Form.IsFirstChecked`: the first checked button of a group

## Main results

* `Form.groupValue?_eq`: the value of a group is read from what its buttons show
* `Form.value_of_isButton`: a button is read as its group
* `Form.radio_groups_read_alike`: the buttons of a group, and all that the value depends on
-/

namespace ParcelRecords.Form

open Markup (Document Focus Node)

variable {d : Document} {name : String} {f g : Focus}

/-! ## Groups -/

/-- A radio button of a group: an input field of the name whose type is `radio` in any letter case.
-/
def IsButton (name : String) (f : Focus) : Prop :=
  f.name = "input" ∧ f.here.attribute? "name" = some name ∧
    (f.here.attribute? "type").map Text.lower = some "radio"

instance (name : String) : DecidablePred (IsButton name) :=
  fun _ => inferInstanceAs (Decidable (_ ∧ _ ∧ _))

/-- Whether a button is checked. -/
def isChecked (f : Focus) : Bool :=
  f.here.hasAttribute "checked"

/-- The value of a button; one without a value counts as `on`. -/
def buttonValue (f : Focus) : String :=
  (f.here.attribute? "value").getD "on"

/-- What the buttons of a group show, in document order: whether each is checked, and its value. -/
def groupStates (d : Document) (name : String) : List (Bool × String) :=
  (d.elements.filter fun f => IsButton name f).map fun f => (isChecked f, buttonValue f)

/-- The first checked button of a group in document order. -/
def IsFirstChecked (d : Document) (name : String) (g : Focus) : Prop :=
  ∃ before after, d.elements = before ++ g :: after ∧ IsButton name g ∧ isChecked g = true ∧
    ∀ f ∈ before, IsButton name f → isChecked f = false

/-- A field without a type is no radio button. -/
theorem inputType_eq_radio_iff :
    inputType f.here = "radio" ↔ (f.here.attribute? "type").map Text.lower = some "radio" := by
  rw [inputType]
  cases f.here.attribute? "type" with
  | some type => simp
  | none =>
    constructor
    · intro h
      exact absurd h (by decide)
    · intro h
      cases h

theorem isCheckedButton_iff : f.name = "input" ∧ isCheckedButton name f.here = true ↔
    IsButton name f ∧ isChecked f = true := by
  simp only [isCheckedButton, Bool.and_eq_true, decide_eq_true_eq, inputType_eq_radio_iff,
    IsButton, isChecked, and_assoc]

/-! ## Values -/

/-- The first checked button is found among all elements of the page. -/
theorem find?_checked_eq (d : Document) (name : String) :
    ((d.focus.elementsNamed "input").find? fun f => isCheckedButton name f.here) =
      d.elements.find? fun f => IsButton name f ∧ isChecked f = true := by
  rw [Focus.elementsNamed, List.find?_filter]
  apply congrFun (congrArg List.find? (funext fun f => ?_))
  rw [Bool.eq_iff_iff, decide_eq_true_eq, decide_eq_true_eq, decide_eq_true_eq]
  exact isCheckedButton_iff

/-- **The value of a group** is read from what its buttons show. -/
theorem groupValue?_eq (hname : name ≠ "") :
    groupValue? d name = ((groupStates d name).find? (·.1)).map (·.2) := by
  have hstates : (groupStates d name).find? (·.1) =
      (d.elements.find? fun f => IsButton name f ∧ isChecked f = true).map fun f =>
        (isChecked f, buttonValue f) := by
    rw [groupStates, List.find?_map, List.find?_filter]
    simp
  rw [groupValue?, if_neg hname, find?_checked_eq, hstates, Option.map_map]
  rfl

/-- **A button is read as its group**. -/
theorem value_of_isButton (h : IsButton name f) :
    value d f = match groupValue? d name with
      | some s => .text s
      | none => .unset := by
  obtain ⟨hinput, hattribute, htype⟩ := h
  have hselect : f.name ≠ "select" := by
    rw [hinput]
    decide
  rw [value, if_neg hselect, if_pos hinput, inputValue, inputType_eq_radio_iff.2 htype, hattribute]
  rfl

theorem isFirstChecked_iff :
    IsFirstChecked d name g ↔
      d.elements.find? (fun f => IsButton name f ∧ isChecked f = true) = some g := by
  rw [List.find?_eq_some_iff_append]
  constructor
  · rintro ⟨before, after, hsplit, hbutton, hchecked, hbefore⟩
    refine ⟨decide_eq_true ⟨hbutton, hchecked⟩, before, after, hsplit, fun f hf => ?_⟩
    rw [Bool.not_eq_true', decide_eq_false_iff_not]
    rintro ⟨hother, hset⟩
    rw [hbefore f hf hother] at hset
    cases hset
  · rintro ⟨hfound, before, after, hsplit, hbefore⟩
    obtain ⟨hbutton, hchecked⟩ := of_decide_eq_true hfound
    refine ⟨before, after, hsplit, hbutton, hchecked, fun f hf hother => ?_⟩
    rw [← Bool.not_eq_true]
    intro hset
    have hnot := hbefore f hf
    rw [decide_eq_true (⟨hother, hset⟩ : IsButton name f ∧ isChecked f = true)] at hnot
    cases hnot

/-- There is only one first checked button. -/
theorem IsFirstChecked.unique {g' : Focus} (h : IsFirstChecked d name g)
    (h' : IsFirstChecked d name g') : g = g' :=
  Option.some.inj ((isFirstChecked_iff.1 h).symm.trans (isFirstChecked_iff.1 h'))

/-- **A group has no value** exactly if none of its buttons is checked. -/
theorem groupValue?_eq_none_iff (hname : name ≠ "") :
    groupValue? d name = none ↔ ∀ g ∈ d.elements, IsButton name g → isChecked g = false := by
  rw [groupValue?, if_neg hname, find?_checked_eq, Option.map_eq_none_iff, List.find?_eq_none]
  simp

/-- **The first checked button** gives the value of its group. -/
theorem groupValue?_of_isFirstChecked (hname : name ≠ "") (h : IsFirstChecked d name g) :
    groupValue? d name = some (buttonValue g) := by
  rw [groupValue?, if_neg hname, find?_checked_eq, isFirstChecked_iff.1 h]
  rfl

/-- A checked button means that one is the first. -/
theorem exists_isFirstChecked (h : ∃ g ∈ d.elements, IsButton name g ∧ isChecked g = true) :
    ∃ g, IsFirstChecked d name g := by
  have hfound : (d.elements.find? fun f => IsButton name f ∧ isChecked f = true).isSome := by
    rw [List.find?_isSome]
    obtain ⟨g, hg, hchecked⟩ := h
    exact ⟨g, hg, decide_eq_true hchecked⟩
  obtain ⟨g, hg⟩ := Option.isSome_iff_exists.1 hfound
  exact ⟨g, isFirstChecked_iff.2 hg⟩

/-- **The buttons of a group are read alike**. All buttons of one name on a page have one value. It
is none exactly if no button of the name on the page is checked, and otherwise the value of the
first checked one in document order. It depends on nothing but which buttons of the name are checked
and which values they have: two pages that show the same of them give their buttons the same value,
whatever other elements they have. -/
theorem radio_groups_read_alike (d : Document) (name : String) (hname : name ≠ "") :
    (∀ f g, IsButton name f → IsButton name g → value d f = value d g) ∧
    (∀ f, IsButton name f →
      (value d f = .unset ↔ ∀ g ∈ d.elements, IsButton name g → isChecked g = false) ∧
      (value d f ≠ .unset →
        ∃ g, IsFirstChecked d name g ∧ value d f = .text (buttonValue g))) ∧
    ∀ d', groupStates d' name = groupStates d name →
      ∀ f f', IsButton name f → IsButton name f' → value d' f' = value d f := by
  refine ⟨fun f g hf hg => ?_, fun f hf => ?_, fun d' hstates f f' hf hf' => ?_⟩
  · rw [value_of_isButton hf, value_of_isButton hg]
  · have hunset : value d f = .unset ↔
        ∀ g ∈ d.elements, IsButton name g → isChecked g = false := by
      rw [← groupValue?_eq_none_iff hname, value_of_isButton hf]
      cases groupValue? d name <;> simp
    refine ⟨hunset, fun hset => ?_⟩
    -- without a checked button the group would have no value
    have hchecked : ∃ g ∈ d.elements, IsButton name g ∧ isChecked g = true := by
      simpa using mt hunset.2 hset
    obtain ⟨g, hfirst⟩ := exists_isFirstChecked hchecked
    refine ⟨g, hfirst, ?_⟩
    rw [value_of_isButton hf, groupValue?_of_isFirstChecked hname hfirst]
  · rw [value_of_isButton hf, value_of_isButton hf', groupValue?_eq hname, groupValue?_eq hname,
      hstates]

/-- A checked box of the same name and a checked button of another one stand before the checked
button of the group, which has no value of its own: both of its buttons are read as `on`, as on a
page that has nothing else. -/
theorem radio_groups_read_alike_mixed :
    let input (attributes : List (String × String)) : Node :=
      .element ⟨"input", .ofList attributes⟩ []
    let first := input [("type", "Radio"), ("name", "use"), ("value", "home")]
    let second := input [("type", "RADIO"), ("name", "use"), ("checked", "")]
    let d : Document := ⟨[first, input [("type", "checkbox"), ("name", "use"), ("checked", "")],
      input [("type", "radio"), ("name", "zone"), ("checked", "")], second]⟩
    let d' : Document := ⟨[first, second]⟩
    ∃ f ∈ d.elements, IsButton "use" f ∧ isChecked f = false ∧ value d f = .text "on" ∧
      value d' f = .text "on" := by
  intro input first second d d'
  obtain ⟨f, box, other, g, hd, hf, hg, hbox, hother, hunchecked, hchecked, hvalue⟩ :
      ∃ f box other g, d.elements = [f, box, other, g] ∧ IsButton "use" f ∧ IsButton "use" g ∧
        ¬IsButton "use" box ∧ ¬IsButton "use" other ∧ isChecked f = false ∧ isChecked g = true ∧
        buttonValue g = "on" := by
    refine ⟨_, _, _, _, rfl, ?_, ?_, ?_, ?_, ?_, ?_, ?_⟩
    all_goals decide +kernel
  have hmem : f ∈ d.elements := hd ▸ List.mem_cons_self
  have hfirst : IsFirstChecked d "use" g := by
    refine ⟨[f, box, other], [], hd, hg, hchecked, ?_⟩
    simp [hunchecked, hbox, hother]
  obtain ⟨-, hread, hsame⟩ := radio_groups_read_alike d "use" (by decide)
  obtain ⟨hunset, hset⟩ := hread f hf
  have hne : value d f ≠ .unset := by
    intro h
    have hno := hunset.1 h g (by simp [hd]) hg
    rw [hchecked] at hno
    cases hno
  obtain ⟨g', hg', hon⟩ := hset hne
  obtain rfl := hg'.unique hfirst
  rw [hvalue] at hon
  have hstates : groupStates d' "use" = groupStates d "use" := by decide +kernel
  exact ⟨f, hmem, hf, hunchecked, hon, (hsame d' hstates f f hf hf).trans hon⟩

end ParcelRecords.Form
