import ParcelRecords.Proofs.Text.Words
import ParcelRecords.Text.Lower

/-!
# Lowercase is taken word by word

A blank is its own lowercase, and no other character has a blank in its lowercase. The form of a
final sigma is not looked for beyond a blank, since a blank is neither skipped nor a letter. So the
lowercase of a text has the lowercase of its words, one after the other, and it does not matter
whether the blanks of a text are collapsed before its letters are made small or after.

## Main definitions

* `blankCodes` lists the code points of the blanks.

## Main results

* `Text.lowerChar_of_isBlank`, `Text.isBlank_of_mem_lowerChar`: blanks in the lowercase of a
  character
* `Text.lowerChars_append_blank`: a blank keeps what stands before it from what follows
* `Text.wordsChars_lowerChars`: the words of a lowercase text
* `Text.normalize_lower`: the normal form of a lowercase text
-/

namespace ParcelRecords.Text

/-! ## Blanks -/

/-- The code points of the blanks. -/
def blankCodes : List Nat :=
  List.range' 9 5 ++ List.range' 28 5 ++ [0x85, 0xA0, 0x1680] ++ List.range' 0x2000 11 ++
    [0x2028, 0x2029, 0x202F, 0x205F, 0x3000]

theorem toNat_mem_blankCodes {c : Char} (hc : isBlank c = true) : c.toNat ∈ blankCodes := by
  simp only [isBlank, Bool.or_eq_true, Bool.and_eq_true, decide_eq_true_eq, beq_iff_eq] at hc
  simp only [blankCodes, List.mem_append, List.mem_range'_1, List.mem_cons, List.not_mem_nil,
    or_false]
  omega

/-- **A blank in a table of letters** has no other case, is no letter, and is not skipped. -/
theorem blank_in_tables : ∀ n ∈ blankCodes, lowerChar (Char.ofNat n) = [Char.ofNat n] ∧
    isCased (Char.ofNat n) = false ∧ isCaseIgnorable (Char.ofNat n) = false := by
  decide +kernel

section Blank

variable {b : Char} (hb : isBlank b = true)
include hb

theorem lowerChar_of_isBlank : lowerChar b = [b] := by
  have htables := (blank_in_tables b.toNat (toNat_mem_blankCodes hb)).1
  rwa [Char.ofNat_toNat] at htables

theorem isCased_of_isBlank : isCased b = false := by
  have htables := (blank_in_tables b.toNat (toNat_mem_blankCodes hb)).2.1
  rwa [Char.ofNat_toNat] at htables

theorem isCaseIgnorable_of_isBlank : isCaseIgnorable b = false := by
  have htables := (blank_in_tables b.toNat (toNat_mem_blankCodes hb)).2.2
  rwa [Char.ofNat_toNat] at htables

theorem ne_capitalSigma_of_isBlank : b ≠ capitalSigma := by
  rintro rfl
  exact absurd hb (by decide)

end Blank

/-! ## Characters that are no blanks -/

/-- The letters that a run gives lie beside the blanks. -/
theorem lowerRuns_beside_blanks : ∀ r ∈ lowerRuns, ∀ n ∈ blankCodes,
    r.last + r.up < n + r.down ∨ n + r.down < r.first + r.up := by
  decide +kernel

theorem toNat_ofNat_eq_or (n : Nat) : (Char.ofNat n).toNat = n ∨ (Char.ofNat n).toNat = 0 := by
  by_cases hvalid : n.isValidChar
  · left
    rw [Char.ofNat, dif_pos hvalid]
    rfl
  · right
    rw [Char.ofNat, dif_neg hvalid]
    rfl

theorem mem_blankCodes_of_isBlank_ofNat {n : Nat} (h : isBlank (Char.ofNat n) = true) :
    n ∈ blankCodes := by
  have hmem := toNat_mem_blankCodes h
  rcases toNat_ofNat_eq_or n with heq | hzero
  · rwa [heq] at hmem
  · -- what is no code point becomes the null character
    rw [hzero] at hmem
    exact absurd hmem (by decide)

theorem isBlank_ofNat_of_target? {r : CaseRun} (hr : r ∈ lowerRuns) {n m : Nat}
    (h : r.target? n = some m) : isBlank (Char.ofNat m) = false := by
  unfold CaseRun.target? at h
  split at h
  · rename_i hrun
    cases h
    rw [← Bool.not_eq_true]
    intro hblank
    have hmem := mem_blankCodes_of_isBlank_ofNat hblank
    have hbeside := lowerRuns_beside_blanks r hr _ hmem
    have hpositive : n + r.up - r.down ≠ 0 := by
      intro hzero
      rw [hzero] at hmem
      exact absurd hmem (by decide)
    omega
  · cases h

theorem lowerChar_ne_nil (c : Char) : lowerChar c ≠ [] := by
  unfold lowerChar
  split
  · simp
  · split
    · simp
    · split <;> simp

/-- **No blank comes from lowercase**: the lowercase of any other character has none in it. -/
theorem isBlank_of_mem_lowerChar {c d : Char} (hc : isBlank c = false) (hd : d ∈ lowerChar c) :
    isBlank d = false := by
  unfold lowerChar at hd
  split at hd
  · -- an ASCII letter, or a character that stays as it is
    obtain rfl := List.mem_singleton.1 hd
    split
    · rename_i hletter
      have hlow : 65 ≤ c.toNat := hletter.1
      have hhigh : c.toNat ≤ 90 := hletter.2
      rw [← Bool.not_eq_true]
      intro hblank
      have hmem := mem_blankCodes_of_isBlank_ofNat hblank
      simp only [blankCodes, List.mem_append, List.mem_range'_1, List.mem_cons, List.not_mem_nil,
        or_false] at hmem
      omega
    · exact hc
  · split at hd
    · simp only [List.mem_cons, List.not_mem_nil, or_false] at hd
      rcases hd with rfl | rfl
      · decide
      · decide
    · split at hd
      · rename_i m hfound
        obtain ⟨r, hr, htarget⟩ := List.exists_of_findSome?_eq_some hfound
        obtain rfl := List.mem_singleton.1 hd
        exact isBlank_ofNat_of_target? hr htarget
      · obtain rfl := List.mem_singleton.1 hd
        exact hc

/-! ## Texts -/

/-- Whether a cased letter follows is known at the next blank. -/
theorem casedAhead_append_blank {b : Char} (hb : isBlank b = true) (cs rest : List Char) :
    casedAhead (cs ++ b :: rest) = casedAhead cs := by
  unfold casedAhead
  induction cs with
  | nil =>
    simp only [List.nil_append, List.dropWhile_nil]
    rw [List.dropWhile_cons_of_neg (by simp [isCaseIgnorable_of_isBlank hb])]
    exact isCased_of_isBlank hb
  | cons c cs ih =>
    cases hc : isCaseIgnorable c with
    | true =>
      rw [List.cons_append, List.dropWhile_cons_of_pos hc, List.dropWhile_cons_of_pos hc, ih]
    | false =>
      rw [List.cons_append, List.dropWhile_cons_of_neg (by simp [hc]),
        List.dropWhile_cons_of_neg (by simp [hc])]

theorem lowerCharsAfter_append_blank {b : Char} (hb : isBlank b = true) (before : Bool)
    (cs rest : List Char) : lowerCharsAfter before (cs ++ b :: rest) =
      lowerCharsAfter before cs ++ b :: lowerChars rest := by
  induction cs generalizing before with
  | nil =>
    have hbehind : casedBehind before b = false := by
      rw [casedBehind, if_neg (by simp [isCaseIgnorable_of_isBlank hb]), isCased_of_isBlank hb]
    show lowerCharsAfter before (b :: rest) = b :: lowerChars rest
    rw [lowerCharsAfter, if_neg (ne_capitalSigma_of_isBlank hb), lowerChar_of_isBlank hb, hbehind]
    rfl
  | cons c cs ih =>
    rw [List.cons_append, lowerCharsAfter, lowerCharsAfter, casedAhead_append_blank hb, ih,
      List.append_assoc]

/-- **A blank parts a text**: what stands before it and what follows have their own lowercase. -/
theorem lowerChars_append_blank {b : Char} (hb : isBlank b = true) (cs rest : List Char) :
    lowerChars (cs ++ b :: rest) = lowerChars cs ++ b :: lowerChars rest :=
  lowerCharsAfter_append_blank hb false cs rest

theorem isBlank_of_mem_lowerCharsAfter {cs : List Char} (hcs : ∀ c ∈ cs, isBlank c = false)
    (before : Bool) : ∀ d ∈ lowerCharsAfter before cs, isBlank d = false := by
  induction cs generalizing before with
  | nil => simp [lowerCharsAfter]
  | cons c cs ih =>
    obtain ⟨hc, hcs⟩ := List.forall_mem_cons.1 hcs
    intro d hd
    rw [lowerCharsAfter] at hd
    rcases List.mem_append.1 hd with hd | hd
    · split at hd
      · -- both small sigmas are letters
        obtain rfl := List.mem_singleton.1 hd
        split <;> decide
      · exact isBlank_of_mem_lowerChar hc hd
    · exact ih hcs _ d hd

theorem lowerChars_ne_nil {cs : List Char} (h : cs ≠ []) : lowerChars cs ≠ [] := by
  cases cs with
  | nil => exact absurd rfl h
  | cons c cs =>
    rw [lowerChars, lowerCharsAfter]
    intro hnil
    have hfirst := (List.append_eq_nil_iff.1 hnil).1
    split at hfirst
    · cases hfirst
    · exact lowerChar_ne_nil c hfirst

/-- **The words of a lowercase text** are the words of the text in lowercase. -/
theorem wordsChars_lowerChars (cs : List Char) :
    wordsChars (lowerChars cs) = (wordsChars cs).map lowerChars := by
  induction cs using induction_on_blanks with
  | word cs hcs =>
    by_cases hne : cs = []
    · rw [hne]
      rfl
    · rw [wordsChars_of_word hne hcs, wordsChars_of_word (lowerChars_ne_nil hne)
        (isBlank_of_mem_lowerCharsAfter hcs false)]
      rfl
  | blank before b after hb ihbefore ihafter =>
    rw [lowerChars_append_blank hb, wordsChars_append_blank hb, wordsChars_append_blank hb,
      ihbefore, ihafter, List.map_append]

theorem lowerChars_joinWith (ws : List (List Char)) :
    lowerChars (joinWith [' '] ws) = joinWith [' '] (ws.map lowerChars) := by
  induction ws with
  | nil => rfl
  | cons w ws ih =>
    cases ws with
    | nil => rfl
    | cons v ws =>
      rw [joinWith_cons_cons, List.append_assoc, List.singleton_append,
        lowerChars_append_blank isBlank_space, ih, List.map_cons, List.map_cons, List.map_cons,
        joinWith_cons_cons, List.append_assoc, List.singleton_append]

/-- **Blanks may be collapsed** before the letters are made small or after. -/
theorem normalize_lower (s : String) : normalize (lower s) = lower (normalize s) := by
  rw [normalize, lower, lower, normalize, String.toList_ofList, String.toList_ofList,
    normalizeChars_eq, normalizeChars_eq, wordsChars_lowerChars, lowerChars_joinWith]

end ParcelRecords.Text
