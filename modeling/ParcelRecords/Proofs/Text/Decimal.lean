import Mathlib.Tactic.Ring
import ParcelRecords.Text.Numeral

/-!
# Decimal digits

What decimal digits write, as they are joined, padded with zeros and read off a longer text.

## Main results

* `Text.decimalValue_append`: digits behind others
* `Text.decimalValue_toDigits`, `Text.decimalValue_lt`: digits and numbers
* `Text.head?_toDigits_ne`: the numeral of a number does not begin with a zero
* `Text.takeWhile_isDigit_append`, `Text.dropWhile_isDigit_append`: digits at the beginning of a text
-/

namespace ParcelRecords.Text

/-! ## Values -/

theorem decimalValue_eq (ds : List Char) : decimalValue ds = Nat.ofDigitChars 10 ds 0 :=
  Nat.ofDigitChars_eq_foldl.symm

/-- **Digits behind others** are the last ones of the number. -/
theorem decimalValue_append (ds es : List Char) :
    decimalValue (ds ++ es) = decimalValue ds * 10 ^ es.length + decimalValue es := by
  rw [decimalValue_eq, decimalValue_eq, decimalValue_eq, Nat.ofDigitChars_append,
    Nat.ofDigitChars_eq_ofDigitChars_zero, Nat.mul_comm]

theorem decimalValue_replicate_zero (n : Nat) : decimalValue (List.replicate n '0') = 0 := by
  rw [decimalValue_eq, Nat.ofDigitChars_replicate_zero, Nat.mul_zero]

/-- Zeros behind digits multiply by powers of ten. -/
theorem decimalValue_append_zeros (ds : List Char) (n : Nat) :
    decimalValue (ds ++ List.replicate n '0') = decimalValue ds * 10 ^ n := by
  rw [decimalValue_append, decimalValue_replicate_zero, List.length_replicate, Nat.add_zero]

/-- Zeros in front of digits write nothing. -/
theorem decimalValue_zeros_append (n : Nat) (ds : List Char) :
    decimalValue (List.replicate n '0' ++ ds) = decimalValue ds := by
  rw [decimalValue_append, decimalValue_replicate_zero, Nat.zero_mul, Nat.zero_add]

theorem decimalValue_toDigits (n : Nat) : decimalValue (Nat.toDigits 10 n) = n := by
  rw [decimalValue_eq, Nat.ofDigitChars_ten_toDigits]

/-- Digits write less than the power of ten of their number. -/
theorem decimalValue_lt {ds : List Char} (h : ∀ d ∈ ds, d.isDigit = true) :
    decimalValue ds < 10 ^ ds.length := by
  induction ds with
  | nil => decide
  | cons d rest ih =>
    have hrest := ih fun e he => h e (List.mem_cons_of_mem d he)
    have hd : d.toNat - 48 ≤ 9 := by
      have hdigit := h d List.mem_cons_self
      simp only [Char.isDigit, ge_iff_le, Bool.and_eq_true, decide_eq_true_eq] at hdigit
      have hle : d.toNat ≤ 57 := hdigit.2
      omega
    have hone : decimalValue [d] = d.toNat - 48 := Nat.zero_add _
    rw [← List.singleton_append, decimalValue_append, hone, List.singleton_append,
      List.length_cons, Nat.pow_succ]
    calc (d.toNat - 48) * 10 ^ rest.length + decimalValue rest
        < (d.toNat - 48) * 10 ^ rest.length + 10 ^ rest.length := Nat.add_lt_add_left hrest _
      _ = (d.toNat - 48 + 1) * 10 ^ rest.length := (Nat.succ_mul _ _).symm
      _ ≤ 10 * 10 ^ rest.length := Nat.mul_le_mul_right _ (by omega)
      _ = 10 ^ rest.length * 10 := Nat.mul_comm _ _

/-! ## Numerals -/

theorem isDigit_of_mem_toDigits {n : Nat} {d : Char} (h : d ∈ Nat.toDigits 10 n) :
    d.isDigit = true :=
  Nat.isDigit_of_mem_toDigits (by decide) (by decide) h

/-- **A numeral does not begin with a zero**, but for that of zero. -/
theorem head?_toDigits_ne {n : Nat} (hn : n ≠ 0) : (Nat.toDigits 10 n).head? ≠ some '0' := by
  induction n using Nat.strongRecOn with
  | _ n ih =>
    by_cases hlt : n < 10
    · rw [Nat.toDigits_of_lt_base hlt]
      have hdigits : ∀ m < 10, m ≠ 0 → [m.digitChar].head? ≠ some '0' := by decide
      exact hdigits n hlt hn
    · have hle : 10 ≤ n := by omega
      have hfirst := ih (n / 10) (by omega) (by omega)
      rw [Nat.toDigits_of_base_le (by decide) hle, List.head?_append]
      cases hhead : (Nat.toDigits 10 (n / 10)).head? with
      | none => exact absurd (List.head?_eq_none_iff.1 hhead) Nat.toDigits_ne_nil
      | some d => rwa [hhead] at hfirst

/-- A numeral has at most so many digits as a power of ten above its number says. -/
theorem length_toDigits_le {n k : Nat} (hk : 0 < k) (h : n < 10 ^ k) :
    (Nat.toDigits 10 n).length ≤ k :=
  (Nat.length_toDigits_le_iff (by decide) hk).2 h

/-! ## Digits at the beginning of a text -/

section Prefix

variable {ds rest : List Char} (hds : ∀ d ∈ ds, d.isDigit = true)
  (hrest : ∀ c ∈ rest.head?, c.isDigit = false)

include hds hrest

theorem takeWhile_isDigit_append : (ds ++ rest).takeWhile Char.isDigit = ds := by
  rw [List.takeWhile_append_of_pos hds]
  cases rest with
  | nil => simp
  | cons c rest =>
    have hc : c.isDigit = false := hrest c rfl
    simp [hc]

theorem dropWhile_isDigit_append : (ds ++ rest).dropWhile Char.isDigit = rest := by
  rw [List.dropWhile_append_of_pos hds]
  cases rest with
  | nil => rfl
  | cons c rest =>
    have hc : c.isDigit = false := hrest c rfl
    simp [hc]

end Prefix

end ParcelRecords.Text
