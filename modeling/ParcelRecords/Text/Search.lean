/-!
# Finding text in text

## Main definitions

* `occursIn` tells whether one text stands somewhere inside another.
* `afterFirst?` is what follows the first occurrence.
* `splitAt` cuts a text at every occurrence of one character.

## Main results

* `occursIn_iff`: an occurrence is a way to write the text as something around the sought one.
-/

namespace ParcelRecords.Text

/-- Whether `part` stands somewhere in the text. -/
def occursInChars (part : List Char) : List Char → Bool
  | [] => part.isEmpty
  | c :: rest => part.isPrefixOf (c :: rest) || occursInChars part rest

/-- Whether `part` stands somewhere in `whole`; an empty text stands everywhere. -/
def occursIn (part whole : String) : Bool :=
  occursInChars part.toList whole.toList

theorem occursInChars_iff {part whole : List Char} :
    occursInChars part whole = true ↔ ∃ before after, whole = before ++ part ++ after := by
  induction whole with
  | nil =>
    simp only [occursInChars, List.isEmpty_iff]
    constructor
    · rintro rfl
      exact ⟨[], [], rfl⟩
    · rintro ⟨before, after, h⟩
      have := congrArg List.length h
      simp at this
      exact List.length_eq_zero_iff.1 (by omega)
  | cons c rest ih =>
    simp only [occursInChars, Bool.or_eq_true, ih]
    constructor
    · rintro (h | ⟨before, after, rfl⟩)
      · obtain ⟨after, hafter⟩ := List.isPrefixOf_iff_prefix.1 h
        exact ⟨[], after, hafter.symm⟩
      · exact ⟨c :: before, after, rfl⟩
    · rintro ⟨before, after, h⟩
      cases before with
      | nil => exact .inl (List.isPrefixOf_iff_prefix.2 ⟨after, h.symm⟩)
      | cons d before =>
        simp only [List.cons_append, List.cons.injEq] at h
        exact .inr ⟨before, after, h.2⟩

/-- **An occurrence** of a text is a way to write the whole as something around it. -/
theorem occursIn_iff {part whole : String} :
    occursIn part whole = true ↔
      ∃ before after, whole.toList = before ++ part.toList ++ after :=
  occursInChars_iff

/-- What follows the first occurrence of `part`, if there is one. -/
def afterFirst? (part : List Char) : List Char → Option (List Char)
  | [] => if part.isEmpty then some [] else none
  | c :: rest =>
    if part.isPrefixOf (c :: rest) then some ((c :: rest).drop part.length)
    else afterFirst? part rest

/-- The pieces between the occurrences of `sep`, one more than there are occurrences. -/
def splitAt (sep : Char) : List Char → List (List Char)
  | [] => [[]]
  | c :: rest =>
    if c = sep then [] :: splitAt sep rest
    else
      match splitAt sep rest with
      | [] => [[c]]
      | piece :: pieces => (c :: piece) :: pieces

theorem splitAt_ne_nil (sep : Char) (cs : List Char) : splitAt sep cs ≠ [] := by
  cases cs with
  | nil => simp [splitAt]
  | cons c rest =>
    simp only [splitAt]
    split
    · simp
    · split <;> simp

/-- The pieces with `sep` put between them again. -/
def joinWith (sep : List Char) : List (List Char) → List Char
  | [] => []
  | [piece] => piece
  | piece :: next :: pieces => piece ++ sep ++ joinWith sep (next :: pieces)

end ParcelRecords.Text
