import Mathlib.Tactic.Ring
import ParcelRecords.Binary64.Basic

/-!
# Rounding depends on the value alone

The magnitude nearest to a quotient is the same however the quotient is written, and the shortcuts
for huge and for tiny decimals give what rounding would give. A decimal therefore stands for the
same number whichever digits and exponent it is written with.

## Main definitions

* `Binary64.decimalRank`: the rank of a decimal, without shortcuts

## Main results

* `Binary64.nearestRank_congr`: equal quotients have the same nearest magnitude
* `Binary64.ofDecimal_eq`: the shortcuts agree with rounding
* `Binary64.ofDecimal_mul_pow`: zeros at the end of the digits may be moved to the exponent
-/

namespace ParcelRecords.Binary64

/-! ## Quotients -/

theorem roundDiv_mul_mul (num den : Nat) {k : Nat} (hk : 0 < k) :
    roundDiv (num * k) (den * k) = roundDiv num den := by
  have hrest : num * k % (den * k) = num % den * k := Nat.mul_mod_mul_right k num den
  have hlow : 2 * (num % den * k) < den * k ↔ 2 * (num % den) < den := by
    rw [← Nat.mul_assoc, Nat.mul_lt_mul_right hk]
  have hhigh : den * k < 2 * (num % den * k) ↔ den < 2 * (num % den) := by
    rw [← Nat.mul_assoc, Nat.mul_lt_mul_right hk]
  simp only [roundDiv, Nat.mul_div_mul_right num den hk, hrest, hlow, hhigh]

theorem le_roundDiv (num den : Nat) : num / den ≤ roundDiv num den := by
  simp only [roundDiv]
  repeat' split
  all_goals omega

theorem nearestRank_mul_mul (num den : Nat) {k : Nat} (hk : 0 < k) :
    nearestRank (num * k) (den * k) = nearestRank num den := by
  simp only [nearestRank, Nat.mul_div_mul_right num den hk, Nat.mul_right_comm den k,
    roundDiv_mul_mul num _ hk]

/-- **Equal quotients** have the same nearest magnitude. -/
theorem nearestRank_congr {num den num' den' : Nat} (hden : 0 < den) (hden' : 0 < den')
    (h : num * den' = num' * den) : nearestRank num den = nearestRank num' den' := by
  rw [← nearestRank_mul_mul num den hden', h, Nat.mul_comm den den',
    nearestRank_mul_mul num' den' hden]

/-- A quotient below one half is nearest to zero. -/
theorem nearestRank_eq_zero {num den : Nat} (h : 2 * num < den) : nearestRank num den = 0 := by
  have hnum : num < den := by omega
  have hsmall : 0 < Nat.pow 2 53 := by decide
  simp [nearestRank, roundDiv, Nat.div_eq_of_lt hnum, Nat.mod_eq_of_lt hnum, h, hsmall]

/-- A great quotient has at least the rank that its size in bits gives. -/
theorem le_nearestRank {num den n : Nat} (hden : 0 < den) (hn : 53 ≤ n)
    (h : 2 ^ n * den ≤ num) : (n - 51) * 2 ^ 52 ≤ nearestRank num den := by
  have hq : 2 ^ n ≤ num / den := (Nat.le_div_iff_mul_le hden).2 h
  have hpos : num / den ≠ 0 := by
    have := Nat.two_pow_pos n
    omega
  have hlog : n ≤ (num / den).log2 := (Nat.le_log2 hpos).2 hq
  have hbig : ¬num / den < 2 ^ 53 := by
    have : 2 ^ 53 ≤ 2 ^ n := Nat.pow_le_pow_right (by decide) hn
    omega
  -- the significand has its greatest bit
  have hsignificand : 2 ^ 52 ≤ roundDiv num (den * 2 ^ ((num / den).log2 - 52)) := by
    have hfloor : 2 ^ 52 ≤ num / (den * 2 ^ ((num / den).log2 - 52)) := by
      rw [← Nat.div_div_eq_div_mul, Nat.le_div_iff_mul_le (Nat.two_pow_pos _), ← Nat.pow_add,
        Nat.add_sub_cancel' (by omega)]
      exact Nat.log2_self_le hpos
    exact Nat.le_trans hfloor (le_roundDiv _ _)
  have hshift : n - 51 = n - 52 + 1 := by omega
  simp only [nearestRank, Nat.pow_eq, if_neg hbig]
  rw [hshift, Nat.succ_mul]
  exact Nat.add_le_add (Nat.mul_le_mul_right _ (by omega)) hsignificand

/-! ## Decimals -/

/-- Ten bits hold three decimal digits and a little more. -/
theorem ten_pow_le_two_pow {k n : Nat} (h : 10 * k ≤ 3 * n) : 10 ^ k ≤ 2 ^ n := by
  refine (Nat.pow_le_pow_iff_left (n := 10) (by decide)).1 ?_
  calc (10 ^ k) ^ 10 = 10 ^ (10 * k) := by rw [← Nat.pow_mul, Nat.mul_comm]
    _ ≤ 10 ^ (3 * n) := Nat.pow_le_pow_right (by decide) h
    _ = 1000 ^ n := by rw [Nat.pow_mul]
    _ ≤ 1024 ^ n := Nat.pow_le_pow_left (by decide) n
    _ = (2 ^ n) ^ 10 := by rw [← Nat.pow_mul, Nat.mul_comm, Nat.pow_mul]

/-- Three bits are less than a decimal digit. -/
theorem two_pow_le_ten_pow {k n : Nat} (h : n ≤ 3 * k) : 2 ^ n ≤ 10 ^ k :=
  calc 2 ^ n ≤ 2 ^ (3 * k) := Nat.pow_le_pow_right (by decide) h
    _ = 8 ^ k := by rw [Nat.pow_mul]
    _ ≤ 10 ^ k := Nat.pow_le_pow_left (by decide) k

/-- The rank nearest to `c · 10^e`. -/
def decimalRank (c : Nat) (e : Int) : Nat :=
  nearestRank (c * 10 ^ e.toNat * 2 ^ unitBits) (10 ^ (-e).toNat)

section Decimal

variable {c k : Nat} {e : Int}

theorem decimalRank_zero (e : Int) : decimalRank 0 e = 0 := by
  rw [decimalRank, Nat.zero_mul, Nat.zero_mul]
  exact nearestRank_eq_zero (Nat.pow_pos (by decide))

/-- A decimal from `10 ^ 311` on is beyond the finite ranks. -/
theorem le_decimalRank (hc : 10 ^ k ≤ c) (he : 311 ≤ k + e) :
    2047 * 2 ^ 52 ≤ decimalRank c e := by
  have hpow : 2 ^ 1024 ≤ 10 ^ 311 := by decide +kernel
  have hbits : 1024 + unitBits - 51 = 2047 := by rw [unitBits_eq]
  have hexp : 311 + (-e).toNat ≤ k + e.toNat := by omega
  rw [← hbits]
  refine le_nearestRank (Nat.pow_pos (by decide)) (by omega) ?_
  generalize unitBits = bits
  calc 2 ^ (1024 + bits) * 10 ^ (-e).toNat = 2 ^ 1024 * 10 ^ (-e).toNat * 2 ^ bits := by
        rw [Nat.pow_add, Nat.mul_right_comm]
    _ ≤ 10 ^ 311 * 10 ^ (-e).toNat * 2 ^ bits :=
        Nat.mul_le_mul_right _ (Nat.mul_le_mul_right _ hpow)
    _ = 10 ^ (311 + (-e).toNat) * 2 ^ bits := by rw [← Nat.pow_add]
    _ ≤ 10 ^ (k + e.toNat) * 2 ^ bits :=
        Nat.mul_le_mul_right _ (Nat.pow_le_pow_right (by decide) hexp)
    _ = 10 ^ k * 10 ^ e.toNat * 2 ^ bits := by rw [Nat.pow_add]
    _ ≤ c * 10 ^ e.toNat * 2 ^ bits := by gcongr

/-- A decimal below `10 ^ (-330)` is nearest to zero. -/
theorem decimalRank_eq_zero (hc : c < 10 ^ k) (he : k + e < -330) : decimalRank c e = 0 := by
  have hpow : 2 ^ (unitBits + 1) ≤ 10 ^ 331 := by
    rw [unitBits_eq]
    decide +kernel
  have hexp : k + 331 ≤ (-e).toNat := by omega
  have hnonneg : e.toNat = 0 := by omega
  refine nearestRank_eq_zero ?_
  calc 2 * (c * 10 ^ e.toNat * 2 ^ unitBits) = c * 2 ^ (unitBits + 1) := by
        rw [hnonneg, Nat.pow_zero, Nat.mul_one, Nat.mul_left_comm, Nat.pow_succ']
    _ < 10 ^ k * 2 ^ (unitBits + 1) := Nat.mul_lt_mul_of_pos_right hc (Nat.two_pow_pos _)
    _ ≤ 10 ^ k * 10 ^ 331 := by gcongr
    _ = 10 ^ (k + 331) := by rw [← Nat.pow_add]
    _ ≤ 10 ^ (-e).toNat := Nat.pow_le_pow_right (by decide) hexp

theorem decimalRank_mul_pow (c k : Nat) (e : Int) :
    decimalRank (c * 10 ^ k) e = decimalRank c (e + k) := by
  have hexp : k + e.toNat + (-(e + k)).toNat = (e + k).toNat + (-e).toNat := by omega
  refine nearestRank_congr (Nat.pow_pos (by decide)) (Nat.pow_pos (by decide)) ?_
  calc c * 10 ^ k * 10 ^ e.toNat * 2 ^ unitBits * 10 ^ (-(e + k)).toNat
      = c * 10 ^ (k + e.toNat + (-(e + k)).toNat) * 2 ^ unitBits := by
        rw [pow_add, pow_add]
        ring
    _ = c * 10 ^ (e + k).toNat * 2 ^ unitBits * 10 ^ (-e).toNat := by
        rw [hexp, pow_add]
        ring

end Decimal

/-! ## Numbers -/

theorem ofRank_of_le (negative : Bool) {r : Nat} (h : 2047 * 2 ^ 52 ≤ r) :
    ofRank negative r = .infinite negative :=
  dif_neg (Nat.not_lt.2 h)

/-- **The shortcuts agree with rounding**: a decimal stands for the nearest number. -/
theorem ofDecimal_eq (negative : Bool) (c : Nat) (e : Int) :
    ofDecimal negative c e = ofRank negative (decimalRank c e) := by
  unfold ofDecimal
  split
  · rename_i hc
    rw [hc, decimalRank_zero]
  · rename_i hc
    split
    · rename_i hbig
      have hlow : 10 ^ (c.log2 * 3 / 10) ≤ c :=
        Nat.le_trans (ten_pow_le_two_pow (by omega)) (Nat.log2_self_le hc)
      exact (ofRank_of_le negative (le_decimalRank hlow (by omega))).symm
    · split
      · rename_i hsmall
        have hhigh : c < 10 ^ ((c.log2 + 1) / 3 + 1) :=
          Nat.lt_of_lt_of_le Nat.lt_log2_self (two_pow_le_ten_pow (by omega))
        rw [decimalRank_eq_zero hhigh hsmall]
      · rfl

/-- **Zeros at the end** of the digits may be moved to the exponent. -/
theorem ofDecimal_mul_pow (negative : Bool) (c k : Nat) (e : Int) :
    ofDecimal negative (c * 10 ^ k) e = ofDecimal negative c (e + k) := by
  rw [ofDecimal_eq, ofDecimal_eq, decimalRank_mul_pow]

end ParcelRecords.Binary64
