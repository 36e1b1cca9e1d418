import ParcelRecords.Text.Blank
import ParcelRecords.Text.Search

/-!
# The normal form of a text is its words

Collapsing the blanks of a text and cutting them off at its ends leaves the words of the text with
single spaces between them. Blanks at the ends of a text belong to no word, so that a trimmed text
has the same normal form.

## Main results

* `Text.normalizeChars_eq`: the normal form is the words joined by spaces
* `Text.wordsChars_append_blank`, `Text.induction_on_blanks`: words and texts from blank to blank
* `Text.wordsChars_trimChars`: trimming keeps the words
* `Text.normalize_trim`: trimming keeps the normal form
* `Text.normalize_normalize`: a normal form is its own normal form
-/

namespace ParcelRecords.Text

/-! ## Words, character by character -/

theorem wordsChars_cons_of_blank {c : Char} (hc : isBlank c = true) (cs : List Char) :
    wordsChars (c :: cs) = wordsChars cs := by
  cases cs with
  | nil => simp [wordsChars, hc]
  | cons d rest => simp [wordsChars, hc]

/-- A character that is no blank begins a word of its own before a blank. -/
theorem wordsChars_cons_cons_of_blank {c d : Char} (hc : isBlank c = false)
    (hd : isBlank d = true) (rest : List Char) :
    wordsChars (c :: d :: rest) = [c] :: wordsChars (d :: rest) := by
  simp [wordsChars, hc, hd]

/-- A text that begins with no blank begins with a word. -/
theorem exists_wordsChars_cons {c : Char} (hc : isBlank c = false) (cs : List Char) :
    ∃ w ws, wordsChars (c :: cs) = (c :: w) :: ws := by
  cases cs with
  | nil => exact ⟨[], [], by simp [wordsChars, hc]⟩
  | cons d rest =>
    cases hd : isBlank d with
    | true => exact ⟨[], _, wordsChars_cons_cons_of_blank hc hd rest⟩
    | false =>
      cases hrest : wordsChars (d :: rest) with
      | nil => exact ⟨[], [], by simp [wordsChars, hc, hd, hrest]⟩
      | cons w ws => exact ⟨w, ws, by simp [wordsChars, hc, hd, hrest]⟩

/-- The first word of a text begins with no blank. -/
theorem isBlank_of_wordsChars_cons {cs w : List Char} {ws : List (List Char)}
    (h : wordsChars cs = w :: ws) : ∃ c w', w = c :: w' ∧ isBlank c = false := by
  induction cs with
  | nil => cases h
  | cons c rest ih =>
    cases hc : isBlank c with
    | true => exact ih (wordsChars_cons_of_blank hc rest ▸ h)
    | false =>
      obtain ⟨w', ws', hw⟩ := exists_wordsChars_cons hc rest
      rw [hw] at h
      cases h
      exact ⟨c, w', rfl, hc⟩

/-- Before a character that is no blank either, it goes in front of the word that begins there. -/
theorem wordsChars_cons_cons {c d : Char} {w : List Char} {ws : List (List Char)}
    (hc : isBlank c = false) (hd : isBlank d = false) {rest : List Char}
    (hrest : wordsChars (d :: rest) = w :: ws) : wordsChars (c :: d :: rest) = (c :: w) :: ws := by
  simp [wordsChars, hc, hd, hrest]

/-- **A blank parts the words** before it from those that follow. -/
theorem wordsChars_append_blank {b : Char} (hb : isBlank b = true) (cs rest : List Char) :
    wordsChars (cs ++ b :: rest) = wordsChars cs ++ wordsChars rest := by
  induction cs with
  | nil => exact wordsChars_cons_of_blank hb rest
  | cons c cs ih =>
    cases hc : isBlank c with
    | true => rw [List.cons_append, wordsChars_cons_of_blank hc, ih, wordsChars_cons_of_blank hc]
    | false =>
      cases cs with
      | nil =>
        rw [List.cons_append, List.nil_append, wordsChars_cons_cons_of_blank hc hb,
          wordsChars_cons_of_blank hb]
        simp [wordsChars, hc]
      | cons d cs =>
        cases hd : isBlank d with
        | true =>
          rw [List.cons_append, List.cons_append, wordsChars_cons_cons_of_blank hc hd,
            ← List.cons_append, ih, wordsChars_cons_cons_of_blank hc hd, List.cons_append]
        | false =>
          obtain ⟨w, ws, hw⟩ := exists_wordsChars_cons hd cs
          rw [List.cons_append, hw] at ih
          rw [List.cons_append, List.cons_append, wordsChars_cons_cons hc hd ih,
            wordsChars_cons_cons hc hd hw]
          rfl

/-- A text without blanks is one word. -/
theorem wordsChars_of_word {w : List Char} (hne : w ≠ []) (hw : ∀ c ∈ w, isBlank c = false) :
    wordsChars w = [w] := by
  induction w with
  | nil => exact absurd rfl hne
  | cons c rest ih =>
    obtain ⟨hc, hrest⟩ := List.forall_mem_cons.1 hw
    cases rest with
    | nil => simp [wordsChars, hc]
    | cons d rest =>
      exact wordsChars_cons_cons hc (hrest d List.mem_cons_self) (ih (List.cons_ne_nil d rest) hrest)

/-- **Texts from blank to blank**: what holds of texts without blanks, and of a text around a blank
if it holds of both sides, holds of all texts. -/
theorem induction_on_blanks {P : List Char → Prop}
    (word : ∀ w, (∀ c ∈ w, isBlank c = false) → P w)
    (blank : ∀ before b after, isBlank b = true → P before → P after → P (before ++ b :: after))
    (cs : List Char) : P cs := by
  by_cases h : ∃ b ∈ cs, isBlank b = true
  · -- what stands on the two sides of a blank is shorter
    obtain ⟨b, hmem, hb⟩ := h
    obtain ⟨before, after, hsplit⟩ := List.append_of_mem hmem
    exact hsplit ▸ blank before b after hb (induction_on_blanks word blank before)
      (induction_on_blanks word blank after)
  · apply word
    intro c hc
    rw [← Bool.not_eq_true]
    intro hb
    exact h ⟨c, hc, hb⟩
termination_by cs.length
decreasing_by
  · simp [hsplit]
  · simp [hsplit]
    omega

/-- The words of a text are not empty and have no blanks in them. -/
theorem isWord_of_mem_wordsChars {cs w : List Char} (h : w ∈ wordsChars cs) :
    w ≠ [] ∧ ∀ c ∈ w, isBlank c = false := by
  induction cs using induction_on_blanks with
  | word cs hcs =>
    by_cases hne : cs = []
    · rw [hne] at h
      cases h
    · rw [wordsChars_of_word hne hcs, List.mem_singleton] at h
      exact h ▸ ⟨hne, hcs⟩
  | blank before b after hb ihbefore ihafter =>
    rw [wordsChars_append_blank hb, List.mem_append] at h
    rcases h with h | h
    · exact ihbefore h
    · exact ihafter h

/-! ## Trimming -/

/-- Cutting blanks off the end takes all of a text or leaves its beginning. -/
theorem trimEndChars_cons (c : Char) (cs : List Char) :
    trimEndChars (c :: cs) = [] ∧ isBlank c = true ∧ trimEndChars cs = [] ∨
      trimEndChars (c :: cs) = c :: trimEndChars cs := by
  cases hcs : trimEndChars cs with
  | nil =>
    cases hc : isBlank c with
    | true => exact .inl ⟨by simp [trimEndChars, hcs, hc], rfl, rfl⟩
    | false => exact .inr (by simp [trimEndChars, hcs, hc])
  | cons d kept => exact .inr (by simp [trimEndChars, hcs])

/-- The two ends of a text are trimmed independently. -/
theorem dropWhile_trimEndChars (cs : List Char) :
    (trimEndChars cs).dropWhile isBlank = trimEndChars (cs.dropWhile isBlank) := by
  induction cs with
  | nil => rfl
  | cons c rest ih =>
    cases hc : isBlank c with
    | false =>
      rw [trimEndChars_cons_of_not_blank hc, List.dropWhile_cons_of_neg (by simp [hc]),
        List.dropWhile_cons_of_neg (by simp [hc]), trimEndChars_cons_of_not_blank hc]
    | true =>
      rw [List.dropWhile_cons_of_pos hc, ← ih]
      rcases trimEndChars_cons c rest with ⟨hall, -, hrest⟩ | hkept
      · rw [hall, hrest]
      · rw [hkept, List.dropWhile_cons_of_pos hc]

theorem wordsChars_dropWhile (cs : List Char) :
    wordsChars (cs.dropWhile isBlank) = wordsChars cs := by
  induction cs with
  | nil => rfl
  | cons c rest ih =>
    cases hc : isBlank c with
    | false => rw [List.dropWhile_cons_of_neg (by simp [hc])]
    | true => rw [List.dropWhile_cons_of_pos hc, ih, wordsChars_cons_of_blank hc]

theorem wordsChars_trimEndChars (cs : List Char) :
    wordsChars (trimEndChars cs) = wordsChars cs := by
  induction cs with
  | nil => rfl
  | cons c rest ih =>
    cases hc : isBlank c with
    | true =>
      rw [wordsChars_cons_of_blank hc, ← ih]
      rcases trimEndChars_cons c rest with ⟨hall, -, hrest⟩ | hkept
      · rw [hall, hrest]
      · rw [hkept, wordsChars_cons_of_blank hc]
    | false =>
      rw [trimEndChars_cons_of_not_blank hc]
      cases rest with
      | nil => rfl
      | cons d rest =>
        -- the word that `c` begins depends on the next character, which is kept or a blank
        rcases trimEndChars_cons d rest with ⟨hall, hd, -⟩ | hkept
        · rw [wordsChars_cons_cons_of_blank hc hd, ← ih, hall]
          simp [wordsChars, hc]
        · rw [hkept] at ih ⊢
          cases hd : isBlank d with
          | true =>
            rw [wordsChars_cons_cons_of_blank hc hd, wordsChars_cons_cons_of_blank hc hd, ih]
          | false =>
            obtain ⟨w, ws, hw⟩ := exists_wordsChars_cons hd rest
            rw [wordsChars_cons_cons hc hd hw, wordsChars_cons_cons hc hd (ih.trans hw)]

/-- **Trimming keeps the words** of a text. -/
theorem wordsChars_trimChars (cs : List Char) : wordsChars (trimChars cs) = wordsChars cs := by
  rw [trimChars, wordsChars_trimEndChars, wordsChars_dropWhile]

/-! ## Runs of blanks -/

theorem joinWith_cons_cons (sep piece next : List Char) (pieces : List (List Char)) :
    joinWith sep (piece :: next :: pieces) = piece ++ sep ++ joinWith sep (next :: pieces) := rfl

/-- The first character of joined pieces is that of the first piece. -/
theorem joinWith_cons_head (sep : List Char) (c : Char) (w : List Char) (ws : List (List Char)) :
    joinWith sep ((c :: w) :: ws) = c :: joinWith sep (w :: ws) := by
  cases ws <;> rfl

/-- A blank is written as a space where its run ends, and goes without a trace before. -/
theorem squeezeChars_cons_cons_of_blank {c d : Char} (hc : isBlank c = true) (cs : List Char) :
    squeezeChars (c :: d :: cs) =
      if isBlank d then squeezeChars (d :: cs) else ' ' :: squeezeChars (d :: cs) := by
  simp [squeezeChars, hc]

theorem squeezeChars_cons_of_not_blank {c : Char} (hc : isBlank c = false) (cs : List Char) :
    squeezeChars (c :: cs) = c :: squeezeChars cs := by
  cases cs <;> simp [squeezeChars, hc]

/-- A text whose runs are collapsed is, but for a blank at the end, its words joined by spaces, with
a space in front of them if it begins with a blank. -/
theorem trimEndChars_squeezeChars (c : Char) (cs : List Char) :
    trimEndChars (squeezeChars (c :: cs)) =
      if isBlank c = true ∧ wordsChars (c :: cs) ≠ [] then
        ' ' :: joinWith [' '] (wordsChars (c :: cs))
      else joinWith [' '] (wordsChars (c :: cs)) := by
  induction cs generalizing c with
  | nil => cases hc : isBlank c <;> simp [squeezeChars, trimEndChars, wordsChars, joinWith, hc,
      isBlank_space]
  | cons d rest ih =>
    cases hc : isBlank c with
    | true =>
      rw [wordsChars_cons_of_blank hc]
      cases hd : isBlank d with
      | true =>
        -- the run goes on, and is written for a later character of it
        rw [squeezeChars_cons_cons_of_blank hc, if_pos hd, ih, hd]
      | false =>
        obtain ⟨w, ws, hw⟩ := exists_wordsChars_cons hd rest
        have hrest := ih d
        rw [if_neg (by simp [hd]), hw, joinWith_cons_head] at hrest
        rw [squeezeChars_cons_cons_of_blank hc, if_neg (by simp [hd]), hw,
          if_pos ⟨rfl, List.cons_ne_nil _ _⟩, joinWith_cons_head]
        simp [trimEndChars, hrest]
    | false =>
      rw [squeezeChars_cons_of_not_blank hc, trimEndChars_cons_of_not_blank hc,
        if_neg (fun h => Bool.false_ne_true h.1), ih]
      cases hd : isBlank d with
      | true =>
        rw [wordsChars_cons_cons_of_blank hc hd]
        cases hrest : wordsChars (d :: rest) with
        | nil => simp [joinWith]
        | cons w ws => simp [joinWith_cons_cons]
      | false =>
        obtain ⟨w, ws, hw⟩ := exists_wordsChars_cons hd rest
        rw [wordsChars_cons_cons hc hd hw, if_neg (fun h => Bool.false_ne_true h.1), hw,
          joinWith_cons_head, joinWith_cons_head, joinWith_cons_head]

/-- **The normal form of a text** is its words with single spaces between them. -/
theorem normalizeChars_eq (cs : List Char) :
    normalizeChars cs = joinWith [' '] (wordsChars cs) := by
  rw [normalizeChars, trimChars, ← dropWhile_trimEndChars]
  cases cs with
  | nil => rfl
  | cons c rest =>
    rw [trimEndChars_squeezeChars]
    -- what begins with a word begins with no blank
    have hwords : (joinWith [' '] (wordsChars (c :: rest))).dropWhile isBlank =
        joinWith [' '] (wordsChars (c :: rest)) := by
      cases hw : wordsChars (c :: rest) with
      | nil => rfl
      | cons w ws =>
        obtain ⟨b, w', rfl, hb⟩ := isBlank_of_wordsChars_cons hw
        rw [joinWith_cons_head, List.dropWhile_cons_of_neg (by simp [hb])]
    split
    · rw [List.dropWhile_cons_of_pos isBlank_space, hwords]
    · exact hwords

theorem normalizeChars_trimChars (cs : List Char) :
    normalizeChars (trimChars cs) = normalizeChars cs := by
  rw [normalizeChars_eq, normalizeChars_eq, wordsChars_trimChars]

/-- **Trimming keeps the normal form** of a text. -/
theorem normalize_trim (s : String) : normalize (trim s) = normalize s := by
  rw [normalize, trim, String.toList_ofList, normalizeChars_trimChars, normalize]

/-- Joined words are the words of the text that they make up. -/
theorem wordsChars_joinWith {ws : List (List Char)}
    (hws : ∀ w ∈ ws, w ≠ [] ∧ ∀ c ∈ w, isBlank c = false) :
    wordsChars (joinWith [' '] ws) = ws := by
  induction ws with
  | nil => rfl
  | cons w ws ih =>
    obtain ⟨⟨hne, hw⟩, hrest⟩ := List.forall_mem_cons.1 hws
    cases ws with
    | nil => exact wordsChars_of_word hne hw
    | cons v ws =>
      rw [joinWith_cons_cons, List.append_assoc, List.singleton_append,
        wordsChars_append_blank isBlank_space, wordsChars_of_word hne hw, ih hrest,
        List.singleton_append]

/-- **The normal form of a normal form** is the same. -/
theorem normalize_normalize (s : String) : normalize (normalize s) = normalize s := by
  rw [normalize, normalize, String.toList_ofList, normalizeChars_eq, normalizeChars_eq,
    wordsChars_joinWith fun w hw => isWord_of_mem_wordsChars hw]

theorem trim_empty : trim "" = "" := rfl

end ParcelRecords.Text
