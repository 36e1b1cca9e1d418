import ParcelRecords.Proofs.Text.Lowercase

/-!
# The case of plain letters and signs

Two texts that differ only in the case of the letters `A` to `Z` have one lowercase and are the same
text up to case. This holds also around a capital sigma: its form depends on where letters stand,
not on their case. A sign such as a slash has no case: no other character differs from it in case
alone.

## Main definitions

* `Text.lowerAsciiChar`: a plain capital made small, any other character as it is

## Main results

* `Text.lower_lowerAscii`, `Text.lower_congr`: plain letters may be made small before all others
* `Text.trim_lowerAscii`: trimming does not see the case of plain letters
* `Text.eqIgnoringCase_of_lowerAscii`: the case of plain letters is ignored where case is
* `Text.eq_of_foldCase_eq_sign`: a sign is the same up to case with itself alone
-/

namespace ParcelRecords.Text

/-- A plain capital made small, any other character as it is. -/
def lowerAsciiChar (c : Char) : Char :=
  if c.toNat < 128 then (lowerChar c).headD c else c

theorem toList_lowerAscii (s : String) : (lowerAscii s).toList = s.toList.map lowerAsciiChar :=
  String.toList_ofList

/-- A character stays as it is, or is a plain capital and moves by 32 places. -/
theorem lowerAsciiChar_cases (c : Char) :
    lowerAsciiChar c = c ∨
      ∃ n ∈ List.range' 65 26, c = Char.ofNat n ∧ lowerAsciiChar c = Char.ofNat (n + 32) := by
  by_cases hascii : c.toNat < 128
  · by_cases hcapital : 'A' ≤ c ∧ c ≤ 'Z'
    · have hlow : 65 ≤ c.toNat := hcapital.1
      have hhigh : c.toNat ≤ 90 := hcapital.2
      refine .inr ⟨c.toNat, List.mem_range'_1.2 ⟨hlow, by omega⟩, (Char.ofNat_toNat c).symm, ?_⟩
      rw [lowerAsciiChar, if_pos hascii, lowerChar, if_pos hascii, if_pos hcapital]
      rfl
    · left
      rw [lowerAsciiChar, if_pos hascii, lowerChar, if_pos hascii, if_neg hcapital]
      rfl
  · exact .inl (if_neg hascii)

/-- **The tables do not see the case** of plain letters. -/
theorem plain_letters_in_tables : ∀ n ∈ List.range' 65 26,
    lowerChar (Char.ofNat (n + 32)) = lowerChar (Char.ofNat n) ∧
      isCased (Char.ofNat (n + 32)) = isCased (Char.ofNat n) ∧
      foldCase (Char.ofNat (n + 32)) = foldCase (Char.ofNat n) ∧
      (Char.ofNat n).toNat = n ∧ (Char.ofNat (n + 32)).toNat = n + 32 := by
  decide +kernel

/-- No plain letter is skipped when the end of a word is looked for. -/
theorem caseIgnorableRanges_beside_letters : ∀ r ∈ caseIgnorableRanges,
    r.2 < 65 ∨ 90 < r.1 ∧ r.2 < 97 ∨ 122 < r.1 := by
  decide +kernel

theorem isCaseIgnorable_of_plain_letter {c : Char}
    (h : 65 ≤ c.toNat ∧ c.toNat ≤ 90 ∨ 97 ≤ c.toNat ∧ c.toNat ≤ 122) :
    isCaseIgnorable c = false := by
  rw [isCaseIgnorable, inRanges, List.any_eq_false]
  intro r hr hin
  simp only [Bool.and_eq_true, decide_eq_true_eq] at hin
  have hbeside := caseIgnorableRanges_beside_letters r hr
  omega

/-- **What does not tell plain letters apart** does not see that one is made small. -/
theorem apply_lowerAsciiChar {α : Type} {f : Char → α}
    (h : ∀ n ∈ List.range' 65 26, f (Char.ofNat (n + 32)) = f (Char.ofNat n)) (c : Char) :
    f (lowerAsciiChar c) = f c := by
  rcases lowerAsciiChar_cases c with hsame | ⟨n, hn, rfl, hsmall⟩
  · rw [hsame]
  · rw [hsmall, h n hn]

theorem lowerChar_lowerAsciiChar (c : Char) : lowerChar (lowerAsciiChar c) = lowerChar c :=
  apply_lowerAsciiChar (fun n hn => (plain_letters_in_tables n hn).1) c

theorem isCased_lowerAsciiChar (c : Char) : isCased (lowerAsciiChar c) = isCased c :=
  apply_lowerAsciiChar (fun n hn => (plain_letters_in_tables n hn).2.1) c

theorem foldCase_lowerAsciiChar (c : Char) : foldCase (lowerAsciiChar c) = foldCase c :=
  apply_lowerAsciiChar (fun n hn => (plain_letters_in_tables n hn).2.2.1) c

theorem isCaseIgnorable_lowerAsciiChar (c : Char) :
    isCaseIgnorable (lowerAsciiChar c) = isCaseIgnorable c := by
  apply apply_lowerAsciiChar
  intro n hn
  obtain ⟨-, -, -, hcode, hlower⟩ := plain_letters_in_tables n hn
  rw [List.mem_range'_1] at hn
  rw [isCaseIgnorable_of_plain_letter (by omega), isCaseIgnorable_of_plain_letter (by omega)]

/-- The capital sigma is no plain letter, nor does one become it. -/
theorem lowerAsciiChar_eq_capitalSigma_iff (c : Char) :
    lowerAsciiChar c = capitalSigma ↔ c = capitalSigma := by
  rcases lowerAsciiChar_cases c with h | ⟨n, hn, hc, h⟩
  · rw [h]
  · obtain ⟨-, -, -, hcode, hlower⟩ := plain_letters_in_tables n hn
    rw [List.mem_range'_1] at hn
    have hsigma : capitalSigma.toNat = 931 := rfl
    constructor
    · intro heq
      rw [← heq, h] at hsigma
      omega
    · intro heq
      rw [← heq, hc] at hsigma
      omega

/-- No plain letter is blank. -/
theorem isBlank_lowerAsciiChar (c : Char) : isBlank (lowerAsciiChar c) = isBlank c := by
  apply apply_lowerAsciiChar
  intro n hn
  obtain ⟨-, -, -, hcode, hlower⟩ := plain_letters_in_tables n hn
  rw [List.mem_range'_1] at hn
  have hletter (d : Char) (hlow : 65 ≤ d.toNat) (hhigh : d.toNat ≤ 122) :
      isBlank d = false := by
    simp only [isBlank, Bool.or_eq_false_iff, Bool.and_eq_false_iff, decide_eq_false_iff_not,
      beq_eq_false_iff_ne]
    omega
  rw [hletter _ (by omega) (by omega), hletter _ (by omega) (by omega)]

/-! ## Texts -/

theorem trimEndChars_map_lowerAsciiChar (cs : List Char) :
    trimEndChars (cs.map lowerAsciiChar) = (trimEndChars cs).map lowerAsciiChar := by
  induction cs with
  | nil => rfl
  | cons c cs ih =>
    rw [List.map_cons, trimEndChars, trimEndChars, ih]
    cases trimEndChars cs with
    | nil => simp only [List.map_nil, isBlank_lowerAsciiChar]; split <;> rfl
    | cons d kept => rfl

/-- The blanks around a text stand where they stood. -/
theorem trim_lowerAscii (s : String) : trim (lowerAscii s) = lowerAscii (trim s) := by
  have hblank : isBlank ∘ lowerAsciiChar = isBlank := funext isBlank_lowerAsciiChar
  apply String.toList_inj.1
  rw [toList_lowerAscii, trim, trim, String.toList_ofList, String.toList_ofList, toList_lowerAscii,
    trimChars, trimChars, List.dropWhile_map, hblank, trimEndChars_map_lowerAsciiChar]

/-- A cased letter follows, whatever case the plain letters have. -/
theorem casedAhead_map_lowerAsciiChar (cs : List Char) :
    casedAhead (cs.map lowerAsciiChar) = casedAhead cs := by
  induction cs with
  | nil => rfl
  | cons c cs ih =>
    unfold casedAhead at ih ⊢
    have hsame := isCaseIgnorable_lowerAsciiChar c
    cases hc : isCaseIgnorable c with
    | true =>
      rw [hc] at hsame
      rw [List.map_cons, List.dropWhile_cons_of_pos hsame, List.dropWhile_cons_of_pos hc, ih]
    | false =>
      rw [hc] at hsame
      rw [List.map_cons, List.dropWhile_cons_of_neg (by simp [hsame]),
        List.dropWhile_cons_of_neg (by simp [hc])]
      exact isCased_lowerAsciiChar c

theorem casedBehind_lowerAsciiChar (before : Bool) (c : Char) :
    casedBehind before (lowerAsciiChar c) = casedBehind before c := by
  rw [casedBehind, casedBehind, isCaseIgnorable_lowerAsciiChar, isCased_lowerAsciiChar]

theorem lowerCharsAfter_map_lowerAsciiChar (before : Bool) (cs : List Char) :
    lowerCharsAfter before (cs.map lowerAsciiChar) = lowerCharsAfter before cs := by
  -- generalized over what stands before, which a sigma looks back at
  induction cs generalizing before with
  | nil => rfl
  | cons c cs ih =>
    rw [List.map_cons, lowerCharsAfter, lowerCharsAfter, casedAhead_map_lowerAsciiChar,
      lowerChar_lowerAsciiChar, casedBehind_lowerAsciiChar, ih]
    simp only [lowerAsciiChar_eq_capitalSigma_iff]

/-- **Plain letters may be made small** before all others. -/
theorem lower_lowerAscii (s : String) : lower (lowerAscii s) = lower s := by
  rw [lower, lower, toList_lowerAscii, lowerChars, lowerCharsAfter_map_lowerAsciiChar]
  rfl

/-- Texts that differ in the case of plain letters alone have one lowercase. -/
theorem lower_congr {s t : String} (h : lowerAscii s = lowerAscii t) : lower s = lower t := by
  rw [← lower_lowerAscii s, h, lower_lowerAscii]

/-- Where case is ignored, so is that of plain letters. -/
theorem eqIgnoringCase_of_lowerAscii {s t : String} (h : lowerAscii s = lowerAscii t) :
    eqIgnoringCase s.toList t.toList = true := by
  have hfold : ∀ u : String, u.toList.map foldCase = (lowerAscii u).toList.map foldCase := by
    intro u
    rw [toList_lowerAscii, List.map_map]
    exact List.map_congr_left fun c _ => (foldCase_lowerAsciiChar c).symm
  rw [eqIgnoringCase, beq_iff_eq, hfold s, hfold t, h]

/-! ## Signs -/

/-- The runs of the table give characters from `a` on. -/
theorem lowerRuns_from_a : ∀ r ∈ lowerRuns, 97 + r.down ≤ r.first + r.up ∧
    (r.last + r.up < 0xD800 + r.down ∨
      0xDFFF + r.down < r.first + r.up ∧ r.last + r.up < 0x110000 + r.down) := by
  decide +kernel

/-- The letters that stand for others come from `a` on. -/
theorem caseTwins_from_a : ∀ t ∈ caseTwins,
    97 ≤ t.2 ∧ (Char.ofNat t.2).toNat = t.2 := by
  decide +kernel

theorem toNat_ofNat_of_target? {r : CaseRun} (hr : r ∈ lowerRuns) {n m : Nat}
    (h : r.target? n = some m) : 97 ≤ m ∧ (Char.ofNat m).toNat = m := by
  obtain ⟨hfrom, hvalid⟩ := lowerRuns_from_a r hr
  unfold CaseRun.target? at h
  split at h
  · rename_i hrun
    cases h
    have hcode : (n + r.up - r.down).isValidChar := by
      rw [Nat.isValidChar]
      omega
    refine ⟨by omega, ?_⟩
    rw [Char.ofNat, dif_pos hcode]
    rfl
  · cases h

/-- **A character is its own lowercase**, or has one that consists of characters from `a` on. -/
theorem lowerChar_cases (c : Char) : lowerChar c = [c] ∨ ∀ d ∈ lowerChar c, 97 ≤ d.toNat := by
  unfold lowerChar
  split
  · split
    · -- a plain capital moves by 32 places
      rename_i hcapital
      right
      intro d hd
      have hlow : 65 ≤ c.toNat := hcapital.1
      have hhigh : c.toNat ≤ 90 := hcapital.2
      have hcode := (plain_letters_in_tables c.toNat (List.mem_range'_1.2 ⟨hlow, by omega⟩)).2.2.2.2
      obtain rfl := List.mem_singleton.1 hd
      omega
    · exact .inl rfl
  · split
    · -- the capital with a point becomes a letter and a combining sign
      right
      intro d hd
      simp only [List.mem_cons, List.not_mem_nil, or_false] at hd
      rcases hd with rfl | rfl <;> decide
    · split
      · rename_i m hfound
        obtain ⟨r, hr, htarget⟩ := List.exists_of_findSome?_eq_some hfound
        obtain ⟨hfrom, hcode⟩ := toNat_ofNat_of_target? hr htarget
        right
        intro d hd
        obtain rfl := List.mem_singleton.1 hd
        omega
      · exact .inl rfl

/-- Up to case a character stands for itself, or a character from `a` on stands for it. -/
theorem foldCase_cases (c : Char) : foldCase c = c ∨ 97 ≤ (foldCase c).toNat := by
  simp only [foldCase]
  cases hlookup : caseTwins.lookup ((lowerChar c).headD c).toNat with
  | some n =>
    obtain ⟨before, after, hsplit, -⟩ := List.lookup_eq_some_iff.1 hlookup
    have hmem : (((lowerChar c).headD c).toNat, n) ∈ caseTwins := by
      rw [hsplit]
      exact List.mem_append_right before List.mem_cons_self
    obtain ⟨hfrom, hcode⟩ := caseTwins_from_a _ hmem
    exact .inr (hcode.symm ▸ hfrom)
  | none =>
    rcases lowerChar_cases c with h | h
    · exact .inl (by rw [h]; rfl)
    · cases hlower : lowerChar c with
      | nil => exact .inl rfl
      | cons first rest => exact .inr (h first (hlower ▸ List.mem_cons_self))

/-- **A sign has no case**: no other character is the same up to case. -/
theorem eq_of_foldCase_eq_sign {c d : Char} (hd : d.toNat < 97) (h : foldCase c = d) : c = d := by
  rcases foldCase_cases c with hsame | hfrom
  · exact hsame.symm.trans h
  · rw [h] at hfrom
    omega

end ParcelRecords.Text
