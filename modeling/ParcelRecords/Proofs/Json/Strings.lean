import ParcelRecords.Json.Printer
import ParcelRecords.Json.Reader

/-!
# Written strings are read back

A written string stands between quotes, with quotes, backslashes and control characters escaped.
Every escape is read as the character it was written for, whatever the string goes on with: no
control character is half of a pair of units.

## Main definitions

* `Json.ContinuesString`: what may follow an escape inside a string

## Main results

* `Json.readString_escape`: one character
* `Json.readString_quoted`: a string up to its closing quote
-/

namespace ParcelRecords.Json

/-- A text that can follow an escape inside a string: it is not at its end, nor does it end with
another unit. -/
def ContinuesString (rest : List Char) : Prop :=
  rest ≠ [] ∧ ∀ e f g h, rest ≠ ['\\', 'u', e, f, g, h]

variable {left : Nat} {rest : List Char}

/-! ## Escapes -/

/-- A one-letter escape is read as the character it stands for. -/
theorem readString_short {c ch : Char} (hc : c ≠ 'u') (h : shortEscape? c = some ch) :
    readString left ('\\' :: c :: rest) = consChar ch (readString left rest) := by
  rw [readString.eq_5 left c rest fun _ _ _ _ _ hu _ => hc hu, h]

/-- A character that needs no escape is read as it stands. -/
theorem readString_plain {c : Char} (hquote : c ≠ '"') (hbackslash : c ≠ '\\')
    (hc : 32 ≤ c.toNat) : readString left (c :: rest) = consChar c (readString left rest) := by
  rw [readString.eq_6 left c rest (fun h _ => hbackslash h) hquote
    (fun _ _ _ _ _ h _ => hbackslash h) (fun _ _ h _ => hbackslash h), if_neg (Nat.not_lt.2 hc)]

/-- A written unit that is no half of a pair is read as its character. -/
theorem readString_unit {a b c d : Char} {n : Nat} (hn : hex4? a b c d = some n) (hsmall : n < 32)
    (hrest : ContinuesString rest) :
    readString left ('\\' :: 'u' :: a :: b :: c :: d :: rest) =
      consChar (Char.ofNat n) (readString left rest) := by
  have hchar : Text.ofCodePoint n = Char.ofNat n := Text.ofCodePoint_of_lt (by omega)
  have hpair : ∀ low, pairChar? n low = none := fun low => if_neg (by omega)
  rw [readString.eq_4, hn]
  dsimp only
  split
  · exact absurd rfl hrest.1
  · exact absurd rfl (hrest.2 _ _ _ _)
  · rename_i e f g h rest' hlong
    have hnone : (hex4? e f g h).bind (pairChar? n) = none := by
      cases hex4? e f g h with
      | none => rfl
      | some low => exact hpair low
    rw [hnone, hchar]
  · rw [hchar]

/-- The digits of a written control character. -/
theorem hexNumeral_four_eq : ∀ n < 32,
    Text.hexNumeral 4 n = ['0', '0', (n / 16).digitChar, (n % 16).digitChar] := by
  decide

theorem hex4?_eq_some : ∀ n < 32,
    hex4? '0' '0' (n / 16).digitChar (n % 16).digitChar = some n := by
  decide

/-- The seven characters that have a one-letter escape. -/
def shortEscaped : List Char := ['"', '\\', '\n', '\r', '\t', '\x08', '\x0c']

/-- A character is written as a letter behind a backslash, as a unit, or as it stands. -/
theorem escape_cases (c : Char) :
    (∃ letter, escape c = ['\\', letter] ∧ letter ≠ 'u' ∧ shortEscape? letter = some c) ∨
      (c.toNat < 32 ∧
        escape c = ['\\', 'u', '0', '0', (c.toNat / 16).digitChar, (c.toNat % 16).digitChar]) ∨
      (c ≠ '"' ∧ c ≠ '\\' ∧ 32 ≤ c.toNat ∧ escape c = [c]) := by
  by_cases hshort : c ∈ shortEscaped
  · simp only [shortEscaped, List.mem_cons, List.not_mem_nil, or_false] at hshort
    rcases hshort with rfl | rfl | rfl | rfl | rfl | rfl | rfl
    · exact .inl ⟨'"', rfl, by decide, rfl⟩
    · exact .inl ⟨'\\', rfl, by decide, rfl⟩
    · exact .inl ⟨'n', rfl, by decide, rfl⟩
    · exact .inl ⟨'r', rfl, by decide, rfl⟩
    · exact .inl ⟨'t', rfl, by decide, rfl⟩
    · exact .inl ⟨'b', rfl, by decide, rfl⟩
    · exact .inl ⟨'f', rfl, by decide, rfl⟩
  · simp only [shortEscaped, List.mem_cons, List.not_mem_nil, or_false, not_or] at hshort
    obtain ⟨hquote, hbackslash, hn, hr, ht, hb, hf⟩ := hshort
    simp only [escape, hquote, hbackslash, hn, hr, ht, hb, hf, if_false]
    split
    · rename_i hsmall
      exact .inr (.inl ⟨hsmall, by rw [hexNumeral_four_eq c.toNat hsmall]⟩)
    · rename_i hlarge
      exact .inr (.inr ⟨hquote, hbackslash, Nat.not_lt.1 hlarge, rfl⟩)

/-- **A written character** is read back. -/
theorem readString_escape (c : Char) (hrest : ContinuesString rest) :
    readString left (escape c ++ rest) = consChar c (readString left rest) := by
  rcases escape_cases c with ⟨letter, heq, hletter, hshort⟩ | ⟨hsmall, heq⟩ |
    ⟨hquote, hbackslash, hlarge, heq⟩
  · rw [heq]
    exact readString_short hletter hshort
  · rw [heq, show consChar c = consChar (Char.ofNat c.toNat) by rw [Char.ofNat_toNat]]
    exact readString_unit (hex4?_eq_some c.toNat hsmall) hsmall hrest
  · rw [heq]
    exact readString_plain hquote hbackslash hlarge

/-! ## Strings -/

/-- What is left of a written string, its closing quote included, may follow an escape. -/
theorem continuesString_escaped (cs rest : List Char) :
    ContinuesString (cs.flatMap escape ++ '"' :: rest) := by
  cases cs with
  | nil => exact ⟨List.cons_ne_nil _ _, by simp⟩
  | cons c cs =>
    rw [List.flatMap_cons, List.append_assoc]
    rcases escape_cases c with ⟨letter, heq, hletter, -⟩ | ⟨-, heq⟩ | ⟨-, hbackslash, -, heq⟩
    · rw [heq]
      exact ⟨List.cons_ne_nil _ _, by simp [hletter]⟩
    · -- a closing quote at least stands behind the unit
      rw [heq]
      exact ⟨List.cons_ne_nil _ _, by simp⟩
    · rw [heq]
      exact ⟨List.cons_ne_nil _ _, by simp [hbackslash]⟩

/-- **A written string** is read back up to its closing quote. -/
theorem readString_quoted (left : Nat) (cs rest : List Char) :
    readString left (cs.flatMap escape ++ '"' :: rest) = .ok (cs, rest) := by
  induction cs with
  | nil => rw [List.flatMap_nil, List.nil_append, readString.eq_3]
  | cons c cs ih =>
    rw [List.flatMap_cons, List.append_assoc,
      readString_escape c (continuesString_escaped cs rest), ih]
    rfl

end ParcelRecords.Json
