import Mathlib.Data.List.TakeWhile
import ParcelRecords.Binary64.Text
import ParcelRecords.Proofs.Binary64.Nearest
import ParcelRecords.Proofs.Text.Decimal

/-!
# The digits of a binary number

The digits that a magnitude is written with stand for the magnitude again. Every digit string the
search gives was read back, and the one that closes the search is exact. Zeros dropped at the end
are made up for by the exponent.

## Main definitions

* `Binary64.Significand`: digits as they are written, with the power of ten of the leading one

## Main results

* `Binary64.decimalRank_shortest`: the shortest digits stand for their magnitude
* `Binary64.exists_toText_eq`: the text of a finite number is made of digits that stand for it
-/

namespace ParcelRecords.Binary64

/-! ## Shortest digits -/

theorem ofRank_val (negative : Bool) (r : Fin (2047 * Nat.pow 2 52)) :
    ofRank negative r = .finite negative r :=
  dif_pos r.isLt

/-- A finite number tells its rank. -/
theorem eq_of_ofRank_eq {negative : Bool} {m : Nat} {r : Fin (2047 * Nat.pow 2 52)}
    (h : ofRank negative m = ofRank negative r) : m = r := by
  rw [ofRank_val, ofRank] at h
  split at h
  · cases h
    rfl
  · cases h

/-- What reads back as a finite magnitude has its rank. -/
theorem decimalRank_of_readsBack {r : Fin (2047 * Nat.pow 2 52)} {c : Nat} {e : Int}
    (h : readsBack r c e = true) : decimalRank c e = r := by
  rw [readsBack, beq_iff_eq, ofDecimal_eq] at h
  exact eq_of_ofRank_eq h

/-- The digits at an exponent are the first of two candidates that reads back. -/
theorem exists_decimalAt?_eq (r : Nat) (e : Int) :
    ∃ preferred other, decimalAt? r e =
      if readsBack r preferred e then some preferred
      else if readsBack r other e then some other else none :=
  ⟨_, _, rfl⟩

theorem decimalRank_of_decimalAt? {r : Fin (2047 * Nat.pow 2 52)} {c : Nat} {e : Int}
    (h : decimalAt? r e = some c) : decimalRank c e = r := by
  obtain ⟨preferred, other, hcandidates⟩ := exists_decimalAt?_eq r e
  rw [hcandidates] at h
  split at h
  · rename_i hback
    rw [← Option.some.inj h]
    exact decimalRank_of_readsBack hback
  · split at h
    · rename_i hback
      rw [← Option.some.inj h]
      exact decimalRank_of_readsBack hback
    · cases h

/-- The exact expansion of a magnitude: a unit `2^(-bits)` is `5^bits · 10^(-bits)`. -/
theorem decimalRank_exactDecimal (r : Nat) :
    decimalRank (exactDecimal r).1 (exactDecimal r).2 = r := by
  have hup : (-(unitBits : Int)).toNat = 0 := by omega
  have hdown : (-(-(unitBits : Int))).toNat = unitBits := by omega
  have hten : 5 ^ unitBits * 2 ^ unitBits = 10 ^ unitBits := (Nat.mul_pow 5 2 unitBits).symm
  rw [exactDecimal, decimalRank, hup, hdown, Nat.pow_eq, Nat.pow_zero, Nat.mul_one, Nat.mul_assoc,
    hten]
  exact nearestRank_units r (Nat.pow_pos (by decide))

theorem decimalRank_shortestFrom (r : Fin (2047 * Nat.pow 2 52)) (point : Int) (n digits : Nat) :
    decimalRank (shortestFrom r point n digits).1 (shortestFrom r point n digits).2 = r := by
  induction digits generalizing n with
  | zero =>
    rw [shortestFrom]
    exact decimalRank_exactDecimal r
  | succ digits ih =>
    rw [shortestFrom]
    split
    · rename_i c hc
      exact decimalRank_of_decimalAt? hc
    · exact ih (n + 1)

/-- **The shortest digits** stand for their magnitude. -/
theorem decimalRank_shortest (r : Fin (2047 * Nat.pow 2 52)) :
    decimalRank (shortest r).1 (shortest r).2 = r :=
  decimalRank_shortestFrom r _ 1 17

/-! ## Significant digits -/

/-- Digits as they are written, with the power of ten of the leading one: digits that do not begin
with a zero, or a single zero before the point. -/
structure Significand (digits : List Char) (lead : Int) : Prop where
  isDigit : ∀ d ∈ digits, d.isDigit = true
  ne_nil : digits ≠ []
  zero : digits.head? = some '0' → digits = ['0'] ∧ lead = 0

/-- The exponent of the last digit. -/
def lastPower (digits : List Char) (lead : Int) : Int :=
  lead + 1 - digits.length

/-- Digits are those that are kept when the zeros at their end are dropped, and the zeros. -/
theorem exists_append_zeros (ds : List Char) :
    ∃ n, ds = (ds.reverse.dropWhile (· = '0')).reverse ++ List.replicate n '0' := by
  have hzeros : ds.reverse.takeWhile (· = '0') =
      List.replicate (ds.reverse.takeWhile (· = '0')).length '0' := by
    refine List.eq_replicate_of_mem fun d hd => ?_
    simpa using List.mem_takeWhile_imp hd
  refine ⟨(ds.reverse.takeWhile (· = '0')).length, ?_⟩
  have hsplit := congrArg List.reverse (List.takeWhile_append_dropWhile (p := (· = '0')) (l := ds.reverse))
  rw [List.reverse_append, hzeros, List.reverse_replicate, List.reverse_reverse] at hsplit
  exact hsplit.symm

/-- **Significant digits** of a number that is not zero stand for the same decimal. -/
theorem significand_scientific {c : Nat} (hc : c ≠ 0) (e : Int) :
    Significand (scientific c e).1 (scientific c e).2 ∧
      ∀ negative, ofDecimal negative (Text.decimalValue (scientific c e).1)
        (lastPower (scientific c e).1 (scientific c e).2) = ofDecimal negative c e := by
  obtain ⟨n, hn⟩ := exists_append_zeros (Nat.toDigits 10 c)
  rw [scientific]
  generalize ((Nat.toDigits 10 c).reverse.dropWhile (· = '0')).reverse = kept at hn
  have hvalue : Text.decimalValue kept * 10 ^ n = c := by
    rw [← Text.decimalValue_append_zeros, ← hn, Text.decimalValue_toDigits]
  have hne : kept ≠ [] := by
    rintro rfl
    exact hc (by rw [← hvalue]; exact Nat.zero_mul _)
  have hempty : kept.isEmpty = false := by simpa using hne
  have hlength : (Nat.toDigits 10 c).length = kept.length + n := by
    rw [hn, List.length_append, List.length_replicate]
  simp only [hempty, Bool.false_eq_true, if_false]
  refine ⟨⟨fun d hd => ?_, hne, fun hzero => ?_⟩, fun negative => ?_⟩
  · have hmem : d ∈ Nat.toDigits 10 c := by
      rw [hn]
      exact List.mem_append_left _ hd
    exact Text.isDigit_of_mem_toDigits hmem
  · -- the digits kept begin as the numeral does
    have hhead : (Nat.toDigits 10 c).head? = some '0' := by
      rw [hn, List.head?_append, hzero]
      rfl
    exact absurd hhead (Text.head?_toDigits_ne hc)
  · have hpower : lastPower kept (e + (Nat.toDigits 10 c).length - 1) = e + n := by
      rw [lastPower, hlength]
      omega
    rw [hpower, ← ofDecimal_mul_pow, hvalue]

/-- **The text of a finite number** is a sign and digits that stand for the number. -/
theorem exists_toText_eq (style : NumberStyle) (negative : Bool)
    (r : Fin (2047 * Nat.pow 2 52)) :
    ∃ digits lead, Significand digits lead ∧
      ofDecimal negative (Text.decimalValue digits) (lastPower digits lead) =
        .finite negative r ∧
      ((Binary64.finite negative r).toText style).toList =
        (if negative then ['-'] else []) ++ magnitudeText style digits lead := by
  by_cases hr : r.val = 0
  · refine ⟨['0'], 0, ⟨by simp [Char.isDigit], by simp, by simp⟩, ?_, ?_⟩
    · have hzero : Text.decimalValue ['0'] = 0 := rfl
      rw [hzero, ofDecimal_eq, decimalRank_zero, ← hr, ofRank_val]
    · simp [toText, hr]
  · have hc : (shortest r).1 ≠ 0 := by
      intro hzero
      have hrank := decimalRank_shortest r
      rw [hzero, decimalRank_zero] at hrank
      exact hr hrank.symm
    obtain ⟨hdigits, hvalue⟩ := significand_scientific hc (shortest r).2
    refine ⟨_, _, hdigits, ?_, ?_⟩
    · rw [hvalue, ofDecimal_eq, decimalRank_shortest, ofRank_val]
    · simp [toText, hr]

end ParcelRecords.Binary64
