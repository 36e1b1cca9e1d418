import ParcelRecords.Markup.Focus
import ParcelRecords.Proofs.Text.Ends
import ParcelRecords.Proofs.Text.Words

/-!
# Texts in normal form

A text is in normal form if its only blanks are single spaces between other characters. Collapsing
runs leaves no two blanks side by side, and cutting off the ends leaves none there, so that what
comes out is in normal form; and a text in normal form stays as it is. As the normal form has the
words of the text and nothing else, two texts have one normal form exactly if they have the same
words.

## Main definitions

* `Text.IsNormal`: the blanks of a text are single spaces inside it

## Main results

* `Text.isNormal_normalizeChars`, `Text.isNormal_iff`: normal forms are the texts that stay as they
  are
* `Text.wordsChars_eq_splitOnP`: words are what is left between blanks
* `Text.normalize_eq_intercalate`, `Text.normalize_eq_iff`: the normal form is made of the words
* `Markup.Element.normal_text_is_words`: the normal text of an element
-/

namespace ParcelRecords

namespace Text

variable {c : Char} {cs : List Char} {s t : String}

/-- A text in normal form: no blank at its ends, no blank but the space, no two spaces in a row. -/
structure IsNormal (cs : List Char) : Prop where
  first : ∀ c ∈ cs.head?, isBlank c = false
  last : ∀ c ∈ cs.getLast?, isBlank c = false
  spaces : ∀ c ∈ cs, isBlank c = true → c = ' '
  single : ¬[' ', ' '] <:+: cs

/-! ## Runs of blanks -/

/-- **Only spaces are left** of the blanks. -/
theorem eq_space_of_mem_squeezeChars (h : c ∈ squeezeChars cs) (hc : isBlank c = true) :
    c = ' ' := by
  induction cs with
  | nil => cases h
  | cons d cs ih =>
    cases hd : isBlank d with
    | false =>
      rw [squeezeChars_cons_of_not_blank hd, List.mem_cons] at h
      rcases h with rfl | h
      · rw [hc] at hd
        cases hd
      · exact ih h
    | true =>
      cases cs with
      | nil => simpa [squeezeChars, hd] using h
      | cons e cs =>
        rw [squeezeChars_cons_cons_of_blank hd] at h
        split at h
        · exact ih h
        · rcases List.mem_cons.1 h with h | h
          · exact h
          · exact ih h

/-- Two spaces in a row of a longer text stand at its beginning or behind its first character. -/
theorem double_isInfix_cons_iff :
    [' ', ' '] <:+: c :: cs ↔ c = ' ' ∧ cs.head? = some ' ' ∨ [' ', ' '] <:+: cs := by
  have hhead : [' '] <+: cs ↔ cs.head? = some ' ' := by
    cases cs with
    | nil => simp
    | cons d cs => simp [List.cons_prefix_cons, @eq_comm Char ' ']
  rw [List.infix_cons_iff, List.cons_prefix_cons, hhead, @eq_comm Char ' ']

/-- **No two spaces** are left side by side. -/
theorem single_squeezeChars (cs : List Char) : ¬[' ', ' '] <:+: squeezeChars cs := by
  induction cs with
  | nil => simp [squeezeChars]
  | cons c cs ih =>
    cases hc : isBlank c with
    | false =>
      have hne : c ≠ ' ' := by
        rintro rfl
        exact absurd hc (by decide)
      rw [squeezeChars_cons_of_not_blank hc, double_isInfix_cons_iff]
      simp [hne, ih]
    | true =>
      cases cs with
      | nil => simp [squeezeChars, hc, double_isInfix_cons_iff]
      | cons d cs =>
        rw [squeezeChars_cons_cons_of_blank hc]
        split
        · exact ih
        · -- what follows the space is no blank
          rename_i hd
          have hne : d ≠ ' ' := by
            rintro rfl
            exact hd isBlank_space
          rw [squeezeChars_cons_of_not_blank (by simpa using hd)] at ih ⊢
          rw [double_isInfix_cons_iff]
          simp [hne, ih]

/-- Where all blanks are single spaces, there is nothing to collapse. -/
theorem squeezeChars_eq_self (hspaces : ∀ c ∈ cs, isBlank c = true → c = ' ')
    (hsingle : ¬[' ', ' '] <:+: cs) : squeezeChars cs = cs := by
  induction cs with
  | nil => rfl
  | cons c cs ih =>
    obtain ⟨hc, hcs⟩ := List.forall_mem_cons.1 hspaces
    rw [double_isInfix_cons_iff, not_or] at hsingle
    cases hblank : isBlank c with
    | false => rw [squeezeChars_cons_of_not_blank hblank, ih hcs hsingle.2]
    | true =>
      obtain rfl := hc hblank
      cases cs with
      | nil => rfl
      | cons d cs =>
        have hd : isBlank d ≠ true := by
          intro hd
          exact hsingle.1 ⟨rfl, congrArg some (hcs d List.mem_cons_self hd)⟩
        rw [squeezeChars_cons_cons_of_blank hblank, if_neg hd, ih hcs hsingle.2]

/-! ## Normal forms -/

/-- **What comes out is in normal form**: what is cut off at the ends makes no new run. -/
theorem isNormal_normalizeChars (cs : List Char) : IsNormal (normalizeChars cs) := by
  have hpart : normalizeChars cs <:+: squeezeChars cs := by
    rw [normalizeChars, trimChars_eq_strip]
    exact strip_isInfix isBlank _
  refine ⟨fun c hc => ?_, fun c hc => ?_, fun c hc => ?_, fun hdouble => ?_⟩
  · rw [normalizeChars, trimChars_eq_strip] at hc
    exact eq_false_of_mem_head?_strip hc
  · rw [normalizeChars, trimChars_eq_strip] at hc
    exact eq_false_of_mem_getLast?_strip hc
  · exact eq_space_of_mem_squeezeChars (hpart.subset hc)
  · exact single_squeezeChars cs (hdouble.trans hpart)

/-- A text in normal form stays as it is. -/
theorem IsNormal.normalizeChars_eq_self (h : IsNormal cs) : normalizeChars cs = cs := by
  rw [normalizeChars, squeezeChars_eq_self h.spaces h.single, trimChars_eq_strip,
    strip_eq_self h.first h.last]

/-- **Normal forms** are the texts that stay as they are. -/
theorem isNormal_iff (s : String) : IsNormal s.toList ↔ normalize s = s := by
  rw [normalize, ← String.toList_inj, String.toList_ofList]
  constructor
  · exact fun h => h.normalizeChars_eq_self
  · exact fun h => h ▸ isNormal_normalizeChars s.toList

/-- There is nothing to trim in a text in normal form. -/
theorem IsNormal.trim_eq_self (h : IsNormal s.toList) : trim s = s := by
  rw [trim, trimChars_eq_strip, strip_eq_self h.first h.last, String.ofList_toList]

/-! ## Words -/

/-- **Words** are what is left between blanks, where anything is. -/
theorem wordsChars_eq_splitOnP (cs : List Char) :
    wordsChars cs = (cs.splitOnP isBlank).filter (· ≠ []) := by
  induction cs using induction_on_blanks with
  | word cs hcs =>
    rw [List.splitOnP_eq_singleton hcs]
    by_cases hne : cs = []
    · subst hne
      rfl
    · simp [wordsChars_of_word hne hcs, hne]
  | blank before b after hb ihbefore ihafter =>
    rw [wordsChars_append_blank hb, List.splitOnP_append_cons before after hb, List.filter_append,
      ihbefore, ihafter]

theorem map_toList_words (s : String) : (words s).map String.toList = wordsChars s.toList := by
  rw [words, List.map_map]
  exact List.map_id'' (fun w => String.toList_ofList) _

theorem joinWith_eq_intercalate (sep : List Char) (pieces : List (List Char)) :
    joinWith sep pieces = sep.intercalate pieces := by
  induction pieces with
  | nil => rfl
  | cons piece pieces ih =>
    cases pieces with
    | nil => exact List.intercalate_singleton.symm
    | cons next pieces => rw [joinWith_cons_cons, ih, List.intercalate_cons_cons]

/-- **The normal form is made of the words**, with single spaces between them. -/
theorem normalize_eq_intercalate (s : String) : normalize s = " ".intercalate (words s) := by
  rw [← String.toList_inj, normalize, String.toList_ofList, normalizeChars_eq,
    String.toList_intercalate, map_toList_words, joinWith_eq_intercalate]
  rfl

/-- The words of a text are found in its normal form. -/
theorem words_normalize (s : String) : words (normalize s) = words s := by
  rw [words, normalize, String.toList_ofList, normalizeChars_eq,
    wordsChars_joinWith fun w hw => isWord_of_mem_wordsChars hw, words]

/-- **One normal form** belongs to one list of words. -/
theorem normalize_eq_iff : normalize s = normalize t ↔ words s = words t := by
  constructor
  · intro h
    rw [← words_normalize s, h, words_normalize]
  · intro h
    rw [normalize_eq_intercalate, h, normalize_eq_intercalate]

end Text

/-! ## Elements -/

/-- **The normal text of an element** is made of the words of its text content, which are the longest
parts without blanks, with single spaces between them. So it begins and ends with no blank, has no
blank but the space in it, and no two spaces in a row. It stays as it is when it is trimmed or
collapsed, and comes out again of the trimmed text. Two elements have the same normal text exactly
if their text contents have the same words in the same order. -/
theorem Markup.Element.normal_text_is_words (e : Element) :
    ((Text.words e.text).map String.toList =
      (e.text.toList.splitOnP Text.isBlank).filter (· ≠ [])) ∧
    e.normalText = " ".intercalate (Text.words e.text) ∧
    Text.IsNormal e.normalText.toList ∧
    Text.normalize e.normalText = e.normalText ∧
    Text.normalize e.trimmedText = e.normalText ∧
    Text.trim e.normalText = e.normalText ∧
    ∀ other : Element,
      e.normalText = other.normalText ↔ Text.words e.text = Text.words other.text := by
  have hnormal : Text.IsNormal e.normalText.toList :=
    (Text.isNormal_iff _).2 (Text.normalize_normalize e.text)
  refine ⟨?_, Text.normalize_eq_intercalate e.text, hnormal, Text.normalize_normalize e.text,
    Text.normalize_trim e.text, hnormal.trim_eq_self, fun other => Text.normalize_eq_iff⟩
  rw [Text.map_toList_words, Text.wordsChars_eq_splitOnP]

/-- A line break, a tab and a space that breaks no line count as one space each, and a run of them as
one. -/
example : Text.normalize "\n Site\t\u00A0 Address \u2003" = "Site Address" := by decide

end ParcelRecords
