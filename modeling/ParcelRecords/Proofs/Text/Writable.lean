import ParcelRecords.Proofs.Text.Decimal
import ParcelRecords.Text.Quoted

/-!
# Texts that can be written

Bytes stand for a text if no character of it stands for half of a surrogate pair. What numerals are
made of, and what quotes and escapes add, is far from the halves; and a quoted text shows no half as
it is, for none is printable. So a quoted text can be written, whatever it quotes.

## Main definitions

* `Text.NoHalf`: characters of which none stands for a half

## Main results

* `Text.isWritable_iff`, `Text.isWritable_append`: the texts that can be written
* `Text.noHalf_toDigits`, `Text.noHalf_hexNumeral`: numerals
* `Text.isPrintable_of_isHalf`, `Text.isWritable_quoted`: quoted texts
* `Text.ofCharacters_eq_self`: texts of genuine characters
-/

namespace ParcelRecords.Text

/-! ## Characters -/

theorem isHalf_eq_false_iff {c : Char} : isHalf c = false ↔ c.toNat < firstHalf := by
  rw [isHalf, decide_eq_false_iff_not, Nat.not_le]

theorem isHalf_of_isDigit {c : Char} (h : c.isDigit = true) : isHalf c = false := by
  simp only [Char.isDigit, ge_iff_le, Bool.and_eq_true, decide_eq_true_eq] at h
  have hle : c.toNat ≤ 57 := h.2
  rw [isHalf_eq_false_iff]
  unfold firstHalf
  omega

theorem isHalf_digitChar : ∀ n < 16, isHalf n.digitChar = false := by
  decide

/-- A genuine character is none of the surrogates, and not behind the last code point. -/
theorem isValidChar_toNat (c : Char) : c.toNat < 0xD800 ∨ 0xDFFF < c.toNat ∧ c.toNat < 0x110000 :=
  c.valid

/-- **A half is not printable**: the code points behind the last printable one are for private use,
or of no character. -/
theorem isPrintable_of_isHalf {c : Char} (h : isHalf c = true) : isPrintable c = false := by
  have hfirst : firstHalf ≤ c.toNat := of_decide_eq_true h
  have hlast := isValidChar_toNat c
  have hrange : (0xe01f0, 0x10ffff) ∈ unprintableRanges := by decide +kernel
  unfold firstHalf at hfirst
  rw [isPrintable, if_neg (by omega), Bool.not_eq_false', inRanges, List.any_eq_true]
  refine ⟨_, hrange, ?_⟩
  simp only [Bool.and_eq_true, decide_eq_true_eq]
  omega

theorem ofCodePoint_toNat {c : Char} (h : isHalf c = false) : ofCodePoint c.toNat = c := by
  have hvalid := isValidChar_toNat c
  have hsurrogate : isSurrogate c.toNat = false := by
    simp only [isSurrogate, Bool.and_eq_false_iff, decide_eq_false_iff_not]
    omega
  rw [ofCodePoint, hsurrogate, if_neg Bool.false_ne_true,
    if_neg (Nat.not_le.2 (isHalf_eq_false_iff.1 h)), Char.ofNat_toNat]

/-! ## Rows of characters -/

/-- No character stands for a half. -/
def NoHalf (cs : List Char) : Prop :=
  ∀ c ∈ cs, isHalf c = false

theorem noHalf_iff_all {cs : List Char} : NoHalf cs ↔ (cs.all fun c => !isHalf c) = true := by
  simp only [NoHalf, List.all_eq_true, Bool.not_eq_true']

instance (cs : List Char) : Decidable (NoHalf cs) :=
  decidable_of_iff _ noHalf_iff_all.symm

@[simp]
theorem noHalf_nil : NoHalf [] := by
  simp [NoHalf]

@[simp]
theorem noHalf_cons_iff {c : Char} {cs : List Char} :
    NoHalf (c :: cs) ↔ isHalf c = false ∧ NoHalf cs :=
  List.forall_mem_cons

@[simp]
theorem noHalf_append_iff {cs ds : List Char} : NoHalf (cs ++ ds) ↔ NoHalf cs ∧ NoHalf ds :=
  List.forall_mem_append

theorem noHalf_replicate {c : Char} (h : isHalf c = false) (n : Nat) :
    NoHalf (List.replicate n c) := by
  intro d hd
  rwa [List.eq_of_mem_replicate hd]

theorem noHalf_flatMap_iff {α : Type} {xs : List α} {f : α → List Char} :
    NoHalf (xs.flatMap f) ↔ ∀ x ∈ xs, NoHalf (f x) := by
  simp only [NoHalf, List.forall_mem_flatMap]

theorem NoHalf.of_subset {cs ds : List Char} (h : NoHalf ds) (hsub : cs ⊆ ds) : NoHalf cs :=
  fun c hc => h c (hsub hc)

theorem noHalf_of_isDigit {cs : List Char} (h : ∀ c ∈ cs, c.isDigit = true) : NoHalf cs :=
  fun c hc => isHalf_of_isDigit (h c hc)

/-- **A numeral** holds no half. -/
theorem noHalf_toDigits {base : Nat} (hbase : 1 < base) (hle : base ≤ 16) (n : Nat) :
    NoHalf (Nat.toDigits base n) := by
  -- the last digit is taken off
  induction n using Nat.strongRecOn with
  | _ n ih =>
    by_cases hlt : n < base
    · rw [Nat.toDigits_of_lt_base hlt]
      exact noHalf_cons_iff.2 ⟨isHalf_digitChar n (by omega), noHalf_nil⟩
    · have hdigit : n % base < 16 := Nat.lt_of_lt_of_le (Nat.mod_lt n (by omega)) hle
      rw [Nat.toDigits_of_base_le hbase (Nat.not_lt.1 hlt), noHalf_append_iff, noHalf_cons_iff]
      exact ⟨ih _ (Nat.div_lt_self (by omega) hbase), isHalf_digitChar _ hdigit, noHalf_nil⟩

theorem noHalf_hexNumeral (width n : Nat) : NoHalf (hexNumeral width n) := by
  rw [hexNumeral, noHalf_append_iff]
  exact ⟨noHalf_replicate (by decide) _, noHalf_toDigits (by decide) (by decide) n⟩

/-! ## Texts -/

theorem isWritable_iff {s : String} : isWritable s = true ↔ NoHalf s.toList :=
  noHalf_iff_all.symm

theorem isWritable_ofList_iff {cs : List Char} :
    isWritable (String.ofList cs) = true ↔ NoHalf cs := by
  rw [isWritable_iff, String.toList_ofList]

@[simp]
theorem isWritable_append (s t : String) :
    isWritable (s ++ t) = (isWritable s && isWritable t) := by
  rw [isWritable, String.toList_append, List.all_append, ← isWritable, ← isWritable]

theorem isWritable_toString (n : Nat) : isWritable (toString n) = true := by
  rw [isWritable_iff, Nat.toString_eq_repr, Nat.toList_repr]
  exact noHalf_toDigits (by decide) (by decide) n

/-- A character inside quotes is shown as it is only if it is printable; its escape is ASCII. -/
theorem noHalf_escapeChar {quote : Char} (hquote : isHalf quote = false) (c : Char) :
    NoHalf (escapeChar quote c) := by
  have hbackslash : isHalf '\\' = false := by decide
  unfold escapeChar
  split_ifs with hself hn hr ht hprintable
  · simp only [noHalf_cons_iff, hbackslash, noHalf_nil, and_true, true_and]
    rcases hself with rfl | rfl
    · exact hquote
    · exact hbackslash
  · decide
  · decide
  · decide
  · -- shown as it is, so printable, which no half is
    rw [noHalf_cons_iff]
    refine ⟨Bool.eq_false_iff.2 fun hhalf => ?_, noHalf_nil⟩
    rw [isPrintable_of_isHalf hhalf] at hprintable
    cases hprintable
  all_goals
    simp only [noHalf_cons_iff]
    exact ⟨hbackslash, by decide, noHalf_hexNumeral _ _⟩

/-- **A text in quotes** can be written, whatever it quotes. -/
theorem isWritable_quoted (s : String) : isWritable (quoted s) = true := by
  have hquote : isHalf (quoteFor s.toList) = false := by
    unfold quoteFor
    split <;> decide
  rw [quoted, isWritable_ofList_iff]
  simp only [List.cons_append, noHalf_cons_iff, noHalf_append_iff, noHalf_flatMap_iff, hquote,
    noHalf_nil, and_true, true_and]
  exact fun c _ => noHalf_escapeChar hquote c

/-! ## Texts of genuine characters -/

/-- **A text that can be written** is taken in as it is. -/
theorem ofCharacters_eq_self {s : String} (h : isWritable s = true) : ofCharacters s = s := by
  have hsame : s.toList.map (fun c => ofCodePoint c.toNat) = s.toList.map id :=
    List.map_congr_left fun c hc => ofCodePoint_toNat (isWritable_iff.1 h c hc)
  rw [ofCharacters, hsame, List.map_id, String.ofList_toList]

end ParcelRecords.Text
