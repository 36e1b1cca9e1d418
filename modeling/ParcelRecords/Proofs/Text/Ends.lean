import Mathlib.Data.List.DropRight
import ParcelRecords.Text.Blank

/-!
# What stands between the ends of a text

Blanks are cut off at both ends of a text, and so are underscores at both ends of a name. Whatever
is cut off, what is left is a part of the text that begins and ends with other characters, a text
that does so is left as it is, and all other characters are left in their order.

## Main definitions

* `Text.strip`: a text without the characters of a sort at its ends

## Main results

* `Text.strip_isInfix`, `Text.eq_false_of_mem_head?_strip`, `Text.eq_false_of_mem_getLast?_strip`:
  what is left
* `Text.strip_eq_self`, `Text.strip_strip`: texts that are left as they are
* `Text.filter_strip`: characters that are never cut off
* `Text.trimChars_eq_strip`, `Text.trim_trim`: trimming cuts off blanks
-/

namespace ParcelRecords.Text

variable {p q : Char → Bool} {c : Char} {cs : List Char}

/-- The text without the characters of a sort at its ends. -/
def strip (p : Char → Bool) (cs : List Char) : List Char :=
  (cs.dropWhile p).rdropWhile p

theorem strip_isInfix (p : Char → Bool) (cs : List Char) : strip p cs <:+: cs :=
  (List.rdropWhile_prefix _ _).isInfix.trans (List.dropWhile_suffix _).isInfix

/-- **What is left begins** with a character of another sort. -/
theorem eq_false_of_mem_head?_strip (h : c ∈ (strip p cs).head?) : p c = false := by
  obtain ⟨back, hback⟩ := List.rdropWhile_prefix p (cs.dropWhile p)
  -- what is cut off at the end leaves the beginning as it is
  have hfront : (cs.dropWhile p).head? = some c := by
    rw [← hback, List.head?_append, ← strip, Option.mem_def.1 h, Option.some_or]
  have hnot := List.head?_dropWhile_not p cs
  rwa [hfront] at hnot

/-- **What is left ends** with a character of another sort. -/
theorem eq_false_of_mem_getLast?_strip (h : c ∈ (strip p cs).getLast?) : p c = false := by
  have hne : strip p cs ≠ [] := by
    intro hnil
    rw [hnil] at h
    cases h
  have hnot := List.rdropWhile_last_not p (cs.dropWhile p) hne
  rw [Option.mem_def, List.getLast?_eq_some_getLast hne, Option.some_inj] at h
  exact Bool.eq_false_iff.2 (h ▸ hnot)

/-- **A text is left as it is** if its ends are of another sort. -/
theorem strip_eq_self (hfirst : ∀ c ∈ cs.head?, p c = false)
    (hlast : ∀ c ∈ cs.getLast?, p c = false) : strip p cs = cs := by
  have hfront : cs.dropWhile p = cs := by
    cases cs with
    | nil => rfl
    | cons c cs => exact List.dropWhile_cons_of_neg (by simp [hfirst c rfl])
  rw [strip, hfront, List.rdropWhile_eq_self_iff]
  intro hne
  simp [hlast _ (List.getLast?_eq_some_getLast hne)]

/-- **Cutting off twice** is cutting off once. -/
theorem strip_strip (p : Char → Bool) (cs : List Char) : strip p (strip p cs) = strip p cs :=
  strip_eq_self (fun _ => eq_false_of_mem_head?_strip) (fun _ => eq_false_of_mem_getLast?_strip)

/-- Characters of another sort are never cut off. -/
theorem filter_strip (h : ∀ c, p c = true → q c = false) (cs : List Char) :
    (strip p cs).filter q = cs.filter q := by
  have hfront (cs : List Char) : (cs.dropWhile p).filter q = cs.filter q := by
    induction cs with
    | nil => rfl
    | cons c cs ih =>
      cases hc : p c with
      | true => rw [List.dropWhile_cons_of_pos hc, ih, List.filter_cons_of_neg (by simp [h c hc])]
      | false => rw [List.dropWhile_cons_of_neg (by simp [hc])]
  rw [strip, List.rdropWhile, List.filter_reverse, hfront, ← List.filter_reverse,
    List.reverse_reverse, hfront]

/-! ## Trimming -/

/-- The first character is cut off at the end only if all that follow are. -/
theorem rdropWhile_cons (p : Char → Bool) (c : Char) (cs : List Char) :
    (c :: cs).rdropWhile p =
      if cs.rdropWhile p = [] then [c].rdropWhile p else c :: cs.rdropWhile p := by
  simp only [List.rdropWhile, List.reverse_cons, List.dropWhile_append, List.isEmpty_iff,
    List.reverse_eq_nil_iff, List.reverse_nil, List.nil_append]
  split
  · rfl
  · rw [List.reverse_append, List.reverse_singleton, List.singleton_append]

theorem trimEndChars_eq_rdropWhile (cs : List Char) : trimEndChars cs = cs.rdropWhile isBlank := by
  induction cs with
  | nil => rfl
  | cons c cs ih =>
    rw [trimEndChars, ih, rdropWhile_cons]
    cases cs.rdropWhile isBlank with
    | nil => rw [if_pos rfl, List.rdropWhile_singleton]
    | cons d kept => rw [if_neg (List.cons_ne_nil d kept)]

/-- **Trimming** cuts off the blanks at both ends. -/
theorem trimChars_eq_strip (cs : List Char) : trimChars cs = strip isBlank cs := by
  rw [trimChars, trimEndChars_eq_rdropWhile, strip]

/-- A text is trimmed once and for all. -/
theorem trim_trim (s : String) : trim (trim s) = trim s := by
  rw [trim, trim, String.toList_ofList, trimChars_eq_strip, trimChars_eq_strip, strip_strip]

end ParcelRecords.Text
