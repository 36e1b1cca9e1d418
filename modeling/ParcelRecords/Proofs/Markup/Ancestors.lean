import ParcelRecords.Markup.Focus

/-!
# What lies around an element

An element of a page is reached from the page by going down. So its parent is the page or an element
of the page again, and with the parent all ancestors are. The text content of an element is a part
of the text content of each ancestor that counts the same kinds of text.

## Main definitions

* `Focus.tablesAround`: how many ancestors of an element are tables

## Main results

* `Document.mem_elements_of_mem_ancestors`: the ancestors of an element are the page and elements of
  the page
* `Focus.textWithin_isInfix_of_mem_ancestors`: the text of an element is a part of the text around
  it
* `Focus.tablesAround_lt_of_mem_ancestors`: a table around an element has fewer tables around it
-/

namespace ParcelRecords.Markup

/-! ## Texts of parents -/

theorem textWithin_append (keep : TextKind → Bool) (ns ms : List Node) :
    textWithin keep (ns ++ ms) = textWithin keep ns ++ textWithin keep ms := by
  induction ns with
  | nil => rw [List.nil_append, textWithin, String.empty_append]
  | cons n ns ih => rw [List.cons_append, textWithin, ih, textWithin, String.append_assoc]

namespace Focus

/-- The text of a parent is that of the nodes before, of the element, and of the nodes after. -/
theorem textWithin_parentOf (keep : TextKind → Bool) (here : Element) (frame : Frame) :
    textWithin keep (parentOf here frame).children =
      textWithin keep frame.before.reverse ++
        (textWithin keep here.children ++ textWithin keep frame.after) := by
  rw [parentOf, textWithin_append, textWithin, Node.textWith]

/-! ## Ancestors -/

theorem ancestors_cons (here : Element) (frame : Frame) (above : List Frame) :
    (⟨here, frame :: above⟩ : Focus).ancestors =
      ⟨parentOf here frame, above⟩ :: (⟨parentOf here frame, above⟩ : Focus).ancestors := rfl

theorem ancestors_of_parent? {f p : Focus} (h : f.parent? = some p) :
    f.ancestors = p :: p.ancestors := by
  obtain ⟨here, above⟩ := f
  cases above with
  | nil => cases h
  | cons frame above =>
    cases h
    rfl

/-- **The text of an element is a part** of the text of each ancestor. -/
theorem textWithin_isInfix_of_mem_ancestors (keep : TextKind → Bool) {f a : Focus}
    (h : a ∈ f.ancestors) :
    (textWithin keep f.here.children).toList <:+: (textWithin keep a.here.children).toList := by
  obtain ⟨here, above⟩ := f
  -- one level of the place after the other
  induction above generalizing here with
  | nil => cases h
  | cons frame above ih =>
    have hparent : (textWithin keep here.children).toList <:+:
        (textWithin keep (parentOf here frame).children).toList := by
      rw [textWithin_parentOf, String.toList_append, String.toList_append, ← List.append_assoc]
      exact List.infix_append _ _ _
    rw [ancestors_cons] at h
    rcases List.mem_cons.1 h with rfl | h
    · exact hparent
    · exact hparent.trans (ih _ h)

/-- How many ancestors are tables. -/
def tablesAround (f : Focus) : Nat :=
  f.ancestors.countP (·.name = "table")

theorem nestingLevel_eq_tablesAround (f : Focus) : f.nestingLevel = f.tablesAround := by
  obtain ⟨here, above⟩ := f
  induction above generalizing here with
  | nil => rfl
  | cons frame above ih =>
    have hparent := ih (parentOf here frame)
    rw [nestingLevel, tablesAround] at hparent ⊢
    rw [ancestors_cons, List.countP_cons, List.countP_cons, hparent]
    rfl

/-- **A table around an element** has fewer tables around it than the element. -/
theorem tablesAround_lt_of_mem_ancestors {f a : Focus} (h : a ∈ f.ancestors)
    (hname : a.name = "table") : a.tablesAround < f.tablesAround := by
  obtain ⟨here, above⟩ := f
  induction above generalizing here with
  | nil => cases h
  | cons frame above ih =>
    rw [tablesAround, tablesAround, ancestors_cons, List.countP_cons]
    rw [ancestors_cons] at h
    rcases List.mem_cons.1 h with rfl | h
    · rw [if_pos (by simpa using hname)]
      exact Nat.lt_succ_self _
    · have hlt := ih _ h
      rw [tablesAround, tablesAround] at hlt
      omega

/-! ## Elements inside -/

mutual

/-- The parent of an element of a node is the element around the node or an element of the node. -/
theorem parent?_of_mem_walk {tag : Tag} {above : List Frame} {before after : List Node} {n : Node}
    {f : Focus} (h : f ∈ walk tag above before after n) :
    f.parent? = some ⟨⟨tag, before.reverse ++ n :: after⟩, above⟩ ∨
      ∃ p ∈ walk tag above before after n, f.parent? = some p := by
  match n with
  | .text _ _ =>
    rw [walk] at h
    cases h
  | .element t children =>
    rw [walk] at h ⊢
    rcases List.mem_cons.1 h with rfl | h
    · exact .inl rfl
    · right
      rcases parent?_of_mem_walkList h with hparent | ⟨p, hp, hparent⟩
      · exact ⟨_, List.mem_cons_self, hparent⟩
      · exact ⟨p, List.mem_cons_of_mem _ hp, hparent⟩

theorem parent?_of_mem_walkList {tag : Tag} {above : List Frame} {before nodes : List Node}
    {f : Focus} (h : f ∈ walkList tag above before nodes) :
    f.parent? = some ⟨⟨tag, before.reverse ++ nodes⟩, above⟩ ∨
      ∃ p ∈ walkList tag above before nodes, f.parent? = some p := by
  match nodes with
  | [] =>
    rw [walkList] at h
    cases h
  | n :: rest =>
    rw [walkList] at h ⊢
    rcases List.mem_append.1 h with h | h
    · rcases parent?_of_mem_walk h with hparent | ⟨p, hp, hparent⟩
      · exact .inl hparent
      · exact .inr ⟨p, List.mem_append_left _ hp, hparent⟩
    · rcases parent?_of_mem_walkList h with hparent | ⟨p, hp, hparent⟩
      · left
        rw [hparent, List.reverse_cons, List.append_assoc, List.singleton_append]
      · exact .inr ⟨p, List.mem_append_right _ hp, hparent⟩

end

/-- **The parent of an element inside** is the element around all of them, or one of them. -/
theorem parent?_of_mem_elements {f g : Focus} (h : f ∈ g.elements) :
    f.parent? = some g ∨ ∃ p ∈ g.elements, f.parent? = some p :=
  parent?_of_mem_walkList h

end Focus

namespace Document

variable {d : Document} {f a : Focus}

/-- The page is around each of its elements. -/
theorem focus_mem_ancestors (h : f ∈ d.elements) : d.focus ∈ f.ancestors := by
  obtain ⟨here, above⟩ := f
  induction above generalizing here with
  | nil =>
    -- an element of the page has a parent
    rcases Focus.parent?_of_mem_elements h with hparent | ⟨p, -, hparent⟩ <;> cases hparent
  | cons frame above ih =>
    rw [Focus.ancestors_cons]
    rcases Focus.parent?_of_mem_elements h with hparent | ⟨p, hp, hparent⟩
    · rw [← Option.some.inj hparent]
      exact List.mem_cons_self
    · obtain rfl := Option.some.inj hparent
      exact List.mem_cons_of_mem _ (ih _ hp)

/-- **The ancestors of an element** are the page and elements of the page. -/
theorem mem_elements_of_mem_ancestors (h : f ∈ d.elements) (ha : a ∈ f.ancestors) :
    a = d.focus ∨ a ∈ d.elements := by
  obtain ⟨here, above⟩ := f
  induction above generalizing here with
  | nil => cases ha
  | cons frame above ih =>
    rw [Focus.ancestors_cons] at ha
    rcases Focus.parent?_of_mem_elements h with hparent | ⟨p, hp, hparent⟩
    · -- the page has no ancestors
      rw [Option.some.inj hparent] at ha
      rcases List.mem_cons.1 ha with rfl | ha
      · exact .inl rfl
      · cases ha
    · obtain rfl := Option.some.inj hparent
      rcases List.mem_cons.1 ha with rfl | ha
      · exact .inr hp
      · exact ih _ hp ha

end Document

end ParcelRecords.Markup
