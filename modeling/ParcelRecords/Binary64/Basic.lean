/-!
# Binary floating-point numbers

The 64-bit binary numbers that a decimal numeral with a fraction or an exponent stands for. A finite
number is a sign and a rank: rank `r` is the `r`-th of the magnitudes `0, 2⁻¹⁰⁷⁴, 2·2⁻¹⁰⁷⁴, …` in
increasing order, so neighbouring magnitudes have neighbouring ranks. All arithmetic is exact, on
natural numbers, in units of `2⁻¹⁰⁷⁴`. Powers are written out as `Nat.pow`, which means the same
whatever library is imported.

## Main definitions

* `Binary64` is the type of the numbers, with the infinities and the one that is no number.
* `Binary64.units` is the magnitude of a rank in units of `2⁻¹⁰⁷⁴`.
* `Binary64.nearestRank` is the rank nearest to a quotient, ties going to the even one.
* `Binary64.ofDecimal` reads `c · 10^e`.
* `Binary64.toInt?` is the integer that a number without fraction is.

## Main results

* `Binary64.nearestRank_units`: a magnitude is nearest to itself.
-/

namespace ParcelRecords

/-- A 64-bit binary floating-point number. Finite magnitudes are counted from zero upwards. -/
inductive Binary64 where
  | finite (negative : Bool) (rank : Fin (2047 * Nat.pow 2 52))
  | infinite (negative : Bool)
  | nan
deriving DecidableEq

namespace Binary64

/-- The number of binary places of a unit, `2⁻¹⁰⁷⁴`. Powers of this height are too great to be
written out in proofs, and so it stays folded there. -/
@[irreducible] def unitBits : Nat := 1074

theorem unitBits_eq : unitBits = 1074 := by
  rw [unitBits]

/-- The magnitude of rank `r` in units of `2⁻¹⁰⁷⁴`. -/
def units (r : Nat) : Nat :=
  if r < Nat.pow 2 52 then r
  else (Nat.pow 2 52 + r % Nat.pow 2 52) * Nat.pow 2 (r / Nat.pow 2 52 - 1)

/-- The quotient rounded to the nearest natural number, a half going to the even neighbour. -/
def roundDiv (num den : Nat) : Nat :=
  let q := num / den
  let r := num % den
  if 2 * r < den then q
  else if den < 2 * r then q + 1
  else if q % 2 = 0 then q else q + 1

/-- The rank of the magnitude nearest to `num / den` units. Magnitudes from `2⁵³` units on have 53
significant bits. -/
def nearestRank (num den : Nat) : Nat :=
  let q := num / den
  let shift := if q < Nat.pow 2 53 then 0 else q.log2 - 52
  shift * Nat.pow 2 52 + roundDiv num (den * Nat.pow 2 shift)

/-- The number of a sign and a rank; ranks beyond the greatest finite one are infinite. -/
def ofRank (negative : Bool) (r : Nat) : Binary64 :=
  if h : r < 2047 * Nat.pow 2 52 then .finite negative ⟨r, h⟩ else .infinite negative

/-- The number nearest to `± c · 10^e`. The two shortcuts spare huge powers where the answer is
infinite or zero by the size of `c` alone. -/
def ofDecimal (negative : Bool) (c : Nat) (e : Int) : Binary64 :=
  if c = 0 then ofRank negative 0
  else if 310 < (c.log2 * 3 / 10 : Nat) + e then .infinite negative
  else if ((c.log2 + 1) / 3 + 1 : Nat) + e < -330 then ofRank negative 0
  else
    ofRank negative
      (nearestRank (c * Nat.pow 10 e.toNat * Nat.pow 2 unitBits) (Nat.pow 10 (-e).toNat))

/-- The integer that the number is, if it has no fraction. -/
def toInt? : Binary64 → Option Int
  | .finite negative r =>
    if units r % Nat.pow 2 unitBits = 0 then
      let n : Int := (units r / Nat.pow 2 unitBits : Nat)
      some (if negative then -n else n)
    else none
  | _ => none

/-- Whether the number is finite. -/
def isFinite : Binary64 → Bool
  | .finite _ _ => true
  | _ => false

/-! ## Exact magnitudes -/

theorem roundDiv_mul (m : Nat) {den : Nat} (h : 0 < den) : roundDiv (m * den) den = m := by
  simp [roundDiv, Nat.mul_div_cancel m h, h]

/-- **A magnitude is nearest to itself**, however its quotient is written. -/
theorem nearestRank_units (r : Nat) {den : Nat} (h : 0 < den) :
    nearestRank (units r * den) den = r := by
  simp only [nearestRank, Nat.pow_eq, Nat.mul_div_cancel _ h]
  by_cases hr : r < 2 ^ 53
  · -- ranks below the first doubled spacing count units
    have hu : units r = r := by
      simp only [units, Nat.pow_eq]
      split
      · rfl
      · have h1 : r / 2 ^ 52 = 1 := by omega
        rw [h1]
        omega
    rw [hu, if_pos hr]
    simp [roundDiv_mul r h]
  · -- behind it, the rank is taken apart into the power of two and the place between two powers
    have hk : ∃ k f, r = (k + 2) * 2 ^ 52 + f ∧ f < 2 ^ 52 :=
      ⟨r / 2 ^ 52 - 2, r % 2 ^ 52, by omega, Nat.mod_lt _ (by decide)⟩
    obtain ⟨k, f, hrk, hf⟩ := hk
    have hdiv : r / 2 ^ 52 = k + 2 := by omega
    have hmod : r % 2 ^ 52 = f := by omega
    have hu : units r = (2 ^ 52 + f) * 2 ^ (k + 1) := by
      simp only [units, Nat.pow_eq]
      rw [if_neg (by omega), hdiv, hmod]
      rfl
    have hpow : 2 ^ (52 + (k + 1)) = 2 ^ 52 * 2 ^ (k + 1) := Nat.pow_add ..
    have hpos : 0 < 2 ^ (k + 1) := Nat.two_pow_pos _
    have hge : 2 ^ (52 + (k + 1)) ≤ units r := by
      rw [hu, hpow]
      exact Nat.mul_le_mul_right _ (by omega)
    have hlt : units r < 2 ^ (52 + (k + 1) + 1) := by
      have hsucc : 2 ^ (52 + (k + 1) + 1) = 2 ^ 53 * 2 ^ (k + 1) := by
        rw [← Nat.pow_add]
        congr 1
        omega
      rw [hu, hsucc]
      exact Nat.mul_lt_mul_of_pos_right (by omega) hpos
    have hlog : (units r).log2 = 52 + (k + 1) :=
      (Nat.log2_eq_iff (by have := Nat.two_pow_pos (52 + (k + 1)); omega)).2 ⟨hge, hlt⟩
    have hbig : ¬ units r < 2 ^ 53 := by
      have : 2 ^ 53 ≤ 2 ^ (52 + (k + 1)) := Nat.pow_le_pow_right (by decide) (by omega)
      omega
    have hm : units r * den = (2 ^ 52 + f) * (den * 2 ^ (k + 1)) := by
      rw [hu, Nat.mul_assoc, Nat.mul_comm den]
    simp only [if_neg hbig, hlog, Nat.add_sub_cancel_left]
    rw [hm, roundDiv_mul _ (Nat.mul_pos h hpos)]
    omega

end Binary64

end ParcelRecords
