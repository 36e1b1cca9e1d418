import ParcelRecords.Proofs.Text.Words

/-!
# Pieces of a text

A text that is cut at every occurrence of one character has no such character in its pieces, and it
is the pieces with that character between them. So texts and lists of pieces stand for each other,
and what is joined from the last pieces of a text is the end of the text.

## Main definitions

* `Text.IsFirstBetween`: the first occurrence of a text stands between two others

## Main results

* `Text.joinWith_splitAt`, `Text.splitAt_joinWith`: cutting and joining undo each other
* `Text.length_splitAt`: there is one piece more than there are cuts
* `Text.splitAt_append`: the pieces on both sides of a cut
* `Text.joinWith_drop_suffix`: the last pieces make the end of a text
* `Text.exists_afterFirst?_eq`: what is read behind the first occurrence
-/

namespace ParcelRecords.Text

variable {sep c : Char} {cs piece : List Char} {pieces : List (List Char)}

/-- A character at which nothing is cut goes in front of the first piece. -/
theorem exists_splitAt_cons (h : c ≠ sep) (cs : List Char) :
    ∃ piece pieces, splitAt sep cs = piece :: pieces ∧
      splitAt sep (c :: cs) = (c :: piece) :: pieces := by
  cases hcs : splitAt sep cs with
  | nil => exact absurd hcs (splitAt_ne_nil sep cs)
  | cons piece pieces => exact ⟨piece, pieces, rfl, by rw [splitAt, if_neg h, hcs]⟩

theorem splitAt_cons_self (sep : Char) (cs : List Char) :
    splitAt sep (sep :: cs) = [] :: splitAt sep cs :=
  if_pos rfl

/-- **No piece has a cut left in it**. -/
theorem not_mem_of_mem_splitAt (h : piece ∈ splitAt sep cs) : sep ∉ piece := by
  induction cs generalizing piece with
  | nil =>
    obtain rfl := List.mem_singleton.1 h
    exact List.not_mem_nil
  | cons c cs ih =>
    by_cases hc : c = sep
    · subst hc
      rw [splitAt_cons_self, List.mem_cons] at h
      rcases h with rfl | h
      · exact List.not_mem_nil
      · exact ih h
    · obtain ⟨first, rest, hcs, hsplit⟩ := exists_splitAt_cons hc cs
      rw [hsplit, List.mem_cons] at h
      rcases h with rfl | h
      · -- only the first piece has grown, by a character that is no cut
        have hfirst : sep ∉ first := ih (hcs ▸ List.mem_cons_self)
        simp [Ne.symm hc, hfirst]
      · exact ih (hcs ▸ List.mem_cons_of_mem first h)

/-- One piece more than there are cuts. -/
theorem length_splitAt (sep : Char) (cs : List Char) :
    (splitAt sep cs).length = cs.count sep + 1 := by
  induction cs with
  | nil => rfl
  | cons c cs ih =>
    by_cases hc : c = sep
    · subst hc
      rw [splitAt_cons_self, List.length_cons, ih, List.count_cons_self]
    · obtain ⟨first, rest, hcs, hsplit⟩ := exists_splitAt_cons hc cs
      rw [hcs, List.length_cons] at ih
      rw [hsplit, List.length_cons, ih, List.count_cons_of_ne hc]

/-! ## Joining -/

theorem joinWith_nil_cons (sep : List Char) (h : pieces ≠ []) :
    joinWith sep ([] :: pieces) = sep ++ joinWith sep pieces := by
  cases pieces with
  | nil => exact absurd rfl h
  | cons next pieces => rfl

/-- **The pieces of a text make the text** again. -/
theorem joinWith_splitAt (sep : Char) (cs : List Char) : joinWith [sep] (splitAt sep cs) = cs := by
  induction cs with
  | nil => rfl
  | cons c cs ih =>
    by_cases hc : c = sep
    · subst hc
      rw [splitAt_cons_self, joinWith_nil_cons _ (splitAt_ne_nil c cs), ih]
      rfl
    · obtain ⟨first, rest, hcs, hsplit⟩ := exists_splitAt_cons hc cs
      rw [hcs] at ih
      rw [hsplit, joinWith_cons_head, ih]

theorem splitAt_of_not_mem (h : sep ∉ cs) : splitAt sep cs = [cs] := by
  have hlength : (splitAt sep cs).length = 1 := by
    rw [length_splitAt, List.count_eq_zero.2 h]
  obtain ⟨piece, hpiece⟩ := List.length_eq_one_iff.1 hlength
  have hjoin := joinWith_splitAt sep cs
  rw [hpiece] at hjoin
  exact hpiece.trans (congrArg (fun p => [p]) hjoin)

/-- **A cut parts the pieces** before it from those that follow. -/
theorem splitAt_append (sep : Char) (before after : List Char) :
    splitAt sep (before ++ sep :: after) = splitAt sep before ++ splitAt sep after := by
  induction before with
  | nil => exact splitAt_cons_self sep after
  | cons c before ih =>
    by_cases hc : c = sep
    · subst hc
      rw [List.cons_append, splitAt_cons_self, ih, splitAt_cons_self, List.cons_append]
    · obtain ⟨first, rest, hbefore, hsplit⟩ := exists_splitAt_cons hc before
      obtain ⟨first', rest', hall, hsplit'⟩ := exists_splitAt_cons hc (before ++ sep :: after)
      rw [hbefore, hall] at ih
      obtain ⟨rfl, rfl⟩ := List.cons.inj ih
      rw [List.cons_append, hsplit', hsplit]
      rfl

/-- A piece ends at the next cut. -/
theorem splitAt_append_cons (h : sep ∉ piece) (cs : List Char) :
    splitAt sep (piece ++ sep :: cs) = piece :: splitAt sep cs := by
  rw [splitAt_append, splitAt_of_not_mem h, List.singleton_append]

/-- **Joined pieces are found again**, if there are any and none has a cut in it. -/
theorem splitAt_joinWith (hne : pieces ≠ []) (h : ∀ piece ∈ pieces, sep ∉ piece) :
    splitAt sep (joinWith [sep] pieces) = pieces := by
  induction pieces with
  | nil => exact absurd rfl hne
  | cons piece pieces ih =>
    obtain ⟨hpiece, hpieces⟩ := List.forall_mem_cons.1 h
    cases pieces with
    | nil => exact splitAt_of_not_mem hpiece
    | cons next pieces =>
      rw [joinWith_cons_cons, List.append_assoc, List.singleton_append, splitAt_append_cons hpiece,
        ih (List.cons_ne_nil next pieces) hpieces]

/-- **The last pieces** make the end of a text. -/
theorem joinWith_drop_suffix (sep : List Char) (pieces : List (List Char)) (n : Nat) :
    joinWith sep (pieces.drop n) <:+ joinWith sep pieces := by
  induction pieces generalizing n with
  | nil => simp
  | cons piece pieces ih =>
    cases n with
    | zero => exact List.suffix_rfl
    | succ n =>
      rw [List.drop_succ_cons]
      apply (ih n).trans
      cases pieces with
      | nil => exact List.nil_suffix
      | cons next pieces => exact List.suffix_append _ _

/-! ## First occurrences -/

/-- The first occurrence of `part` in a text stands behind `before`, and `after` follows it. -/
structure IsFirstBetween (part cs before after : List Char) : Prop where
  split : cs = before ++ part ++ after
  first : ∀ b a, cs = b ++ part ++ a → before.length ≤ b.length

variable {part before after : List Char}

/-- There is only one first occurrence. -/
theorem IsFirstBetween.after_eq {before' after' : List Char}
    (h : IsFirstBetween part cs before after) (h' : IsFirstBetween part cs before' after') :
    after = after' := by
  have hlength : (before ++ part).length = (before' ++ part).length := by
    have hle := h.first before' after' h'.split
    have hge := h'.first before after h.split
    rw [List.length_append, List.length_append]
    omega
  exact (List.append_inj (h.split.symm.trans h'.split) hlength).2

/-- **What follows the first occurrence** is found wherever there is one. -/
theorem exists_afterFirst?_eq (h : occursInChars part cs = true) :
    ∃ before after, IsFirstBetween part cs before after ∧ afterFirst? part cs = some after := by
  induction cs with
  | nil =>
    obtain rfl : part = [] := List.isEmpty_iff.1 h
    exact ⟨[], [], ⟨rfl, fun _ _ _ => Nat.zero_le _⟩, rfl⟩
  | cons c rest ih =>
    by_cases hprefix : part.isPrefixOf (c :: rest) = true
    · -- nothing stands before an occurrence at the beginning
      obtain ⟨after, hafter⟩ := List.isPrefixOf_iff_prefix.1 hprefix
      refine ⟨[], after, ⟨hafter.symm, fun _ _ _ => Nat.zero_le _⟩, ?_⟩
      rw [afterFirst?, if_pos hprefix, ← hafter, List.drop_left]
    · rw [occursInChars, Bool.or_eq_true] at h
      obtain ⟨before, after, hfirst, hafter⟩ := ih (h.resolve_left hprefix)
      refine ⟨c :: before, after, ⟨?_, fun b a hsplit => ?_⟩, ?_⟩
      · rw [hfirst.split]
        rfl
      · cases b with
        | nil => exact absurd (List.isPrefixOf_iff_prefix.2 ⟨a, hsplit.symm⟩) hprefix
        | cons d b =>
          have hrest : rest = b ++ part ++ a := (List.cons.inj hsplit).2
          exact Nat.succ_le_succ (hfirst.first b a hrest)
      · rw [afterFirst?, if_neg hprefix, hafter]

end ParcelRecords.Text
