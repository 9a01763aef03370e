import Mathlib.Algebra.Group.Nat.Defs
import Mathlib.Tactic.SplitIfs
import TreeSift.Number.Binary64

/-!
# TreeSift.Proofs.Number.Rounding

The double nearest to a whole number.

1. Its significand is the number shifted to 53 binary digits and rounded there, a half to even
   (`Binary64.significand`).  It lies between `2 ^ 52` and `2 ^ 53`, ends included, so a number with
   fewer digits never comes out above one with more.
2. Rounding keeps the order: of two whole numbers the smaller one does not become the greater double
   (`Binary64.place_mono`), although both may become the same.
3. Up to `2 ^ 53` on either side of zero nothing is rounded, and different numbers become different
   doubles (`Binary64.place_lt_place`).
-/

namespace TreeSift

namespace Binary64

/-! ## rounding a quotient -/

theorem roundHalfEven_mul_right {den : Nat} (k : Nat) (hden : 0 < den) :
    roundHalfEven (k * den) den = k := by
  simp [roundHalfEven, Nat.mul_div_cancel k hden, hden]

theorem roundHalfEven_mono {num num' : Nat} (den : Nat) (h : num ≤ num') :
    roundHalfEven num den ≤ roundHalfEven num' den := by
  have hq : num / den ≤ num' / den := Nat.div_le_div_right h
  have hr : num / den = num' / den → num % den ≤ num' % den := by
    intro heq
    have hnum := Nat.div_add_mod num den
    have hnum' := Nat.div_add_mod num' den
    rw [← heq] at hnum'
    omega
  unfold roundHalfEven
  dsimp only
  -- either the quotients differ, or the remainders are in order
  split_ifs <;> omega

/-! ## the significand of a whole number -/

/-- The number shifted to 53 binary digits, and rounded if it had more. -/
def significand (n : Nat) : Nat :=
  roundHalfEven (n * 2 ^ (52 - n.log2)) (2 ^ (n.log2 - 52))

/-- The lowest number of a length, shifted as all of that length are. -/
theorem pow_log2_mul (length : Nat) :
    2 ^ length * 2 ^ (52 - length) = 2 ^ 52 * 2 ^ (length - 52) := by
  rw [← Nat.pow_add, ← Nat.pow_add]
  congr 1
  omega

variable {n m : Nat}

theorem le_significand (hn : n ≠ 0) : 2 ^ 52 ≤ significand n := by
  have hlow : 2 ^ 52 * 2 ^ (n.log2 - 52) ≤ n * 2 ^ (52 - n.log2) := by
    rw [← pow_log2_mul]
    exact Nat.mul_le_mul_right _ (Nat.log2_self_le hn)
  have h := roundHalfEven_mono (2 ^ (n.log2 - 52)) hlow
  rwa [roundHalfEven_mul_right _ (Nat.two_pow_pos _)] at h

theorem significand_le (n : Nat) : significand n ≤ 2 ^ 53 := by
  have hhigh : n * 2 ^ (52 - n.log2) ≤ 2 ^ 53 * 2 ^ (n.log2 - 52) := by
    calc
      n * 2 ^ (52 - n.log2) ≤ 2 ^ (n.log2 + 1) * 2 ^ (52 - n.log2) :=
        Nat.mul_le_mul_right _ (Nat.le_of_lt Nat.lt_log2_self)
      _ = 2 * (2 ^ n.log2 * 2 ^ (52 - n.log2)) := by
        rw [Nat.pow_succ, Nat.mul_comm _ 2, Nat.mul_assoc]
      _ = 2 ^ 53 * 2 ^ (n.log2 - 52) := by rw [pow_log2_mul, ← Nat.mul_assoc, ← Nat.pow_add_one']
  have h := roundHalfEven_mono (2 ^ (n.log2 - 52)) hhigh
  rwa [roundHalfEven_mul_right _ (Nat.two_pow_pos _)] at h

theorem log2_le_of_lt (hn : n < 2 ^ 53) : n.log2 ≤ 52 := by
  by_cases h : n = 0
  · simp [h]
  · exact Nat.lt_succ_iff.mp ((Nat.log2_lt h).mpr hn)

/-- A number of at most 53 digits is not rounded, -/
theorem significand_of_lt (hn : n < 2 ^ 53) : significand n = n * 2 ^ (52 - n.log2) := by
  have hone := roundHalfEven_mul_right (n * 2 ^ (52 - n.log2)) Nat.one_pos
  rwa [Nat.mul_one, ← Nat.pow_zero 2, ← Nat.sub_eq_zero_of_le (log2_le_of_lt hn)] at hone

/-- and so it is not carried up to one more digit. -/
theorem significand_lt (hn : n < 2 ^ 53) : significand n < 2 ^ 53 := by
  have hpow : 2 ^ (n.log2 + 1) * 2 ^ (52 - n.log2) = 2 ^ 53 := by
    have hlog := log2_le_of_lt hn
    rw [← Nat.pow_add]
    congr 1
    omega
  rw [significand_of_lt hn, ← hpow]
  exact Nat.mul_lt_mul_of_pos_right Nat.lt_log2_self (Nat.two_pow_pos _)

/-! ## the magnitude of a whole number -/

theorem lastPlace_one (hn : n ≠ 0) : lastPlace n 1 = (n.log2 : Int) - 52 := by
  have hlow : ¬n < 2 ^ n.log2 := Nat.not_lt.mpr (Nat.log2_self_le hn)
  have hone : Nat.log2 1 = 0 := by decide
  simp [lastPlace, hone, Nat.shiftLeft_eq, hlow]
  omega

theorem nearest_one (hn : n ≠ 0) :
    nearest n 1 = (n.log2 + 1022) * 2 ^ 52 + significand n := by
  have hexponent : ((n.log2 : Int) - 52 + 1074).toNat = n.log2 + 1022 := by omega
  have hsignificand : (if (0 : Int) ≤ n.log2 - 52
      then roundHalfEven n (1 <<< ((n.log2 : Int) - 52).toNat)
      else roundHalfEven (n <<< (-((n.log2 : Int) - 52)).toNat) 1) = significand n := by
    rw [Nat.shiftLeft_eq, Nat.shiftLeft_eq, Nat.one_mul, significand]
    split
    · rw [show ((n.log2 : Int) - 52).toNat = n.log2 - 52 by omega,
        show 52 - n.log2 = 0 by omega, Nat.pow_zero, Nat.mul_one]
    · rw [show (-((n.log2 : Int) - 52)).toNat = 52 - n.log2 by omega,
        show n.log2 - 52 = 0 by omega, Nat.pow_zero]
  have hrange : fractionRange = 2 ^ 52 := rfl
  simp only [nearest, if_neg hn, lastPlace_one hn, hexponent, hsignificand, hrange]

theorem nearest_zero : nearest 0 1 = 0 := rfl

theorem nearest_pos (hn : n ≠ 0) : 0 < nearest n 1 := by
  rw [nearest_one hn]
  omega

theorem log2_mono (hn : n ≠ 0) (h : n ≤ m) : n.log2 ≤ m.log2 := by
  rw [Nat.le_log2 (by omega)]
  exact Nat.le_trans (Nat.log2_self_le hn) h

theorem nearest_mono (h : n ≤ m) : nearest n 1 ≤ nearest m 1 := by
  by_cases hn : n = 0
  · rw [hn, nearest_zero]
    exact Nat.zero_le _
  have hm : m ≠ 0 := by omega
  have hle := significand_le n
  have hge := le_significand hm
  rw [nearest_one hn, nearest_one hm]
  obtain hlog | hlog := Nat.lt_or_eq_of_le (log2_mono hn h)
  · omega
  · have hsame : significand n ≤ significand m := by
      rw [significand, significand, ← hlog]
      exact roundHalfEven_mono _ (Nat.mul_le_mul_right _ h)
    omega

/-- Up to `2 ^ 53` different numbers have different magnitudes. -/
theorem nearest_lt_nearest (h : n < m) (hm : m ≤ 2 ^ 53) : nearest n 1 < nearest m 1 := by
  have hm0 : m ≠ 0 := by omega
  by_cases hn : n = 0
  · rw [hn, nearest_zero]
    exact nearest_pos hm0
  have hn53 : n < 2 ^ 53 := Nat.lt_of_lt_of_le h hm
  have hlt := significand_lt hn53
  have hge := le_significand hm0
  rw [nearest_one hn, nearest_one hm0]
  obtain hlog | hlog := Nat.lt_or_eq_of_le (log2_mono hn (Nat.le_of_lt h))
  · omega
  · have hm53 : m < 2 ^ 53 := by
      refine Nat.lt_of_le_of_ne hm fun heq => ?_
      have htop : m.log2 = 53 := by rw [heq, Nat.log2_two_pow]
      have := log2_le_of_lt hn53
      omega
    have hsignificand : significand n < significand m := by
      rw [significand_of_lt hn53, significand_of_lt hm53, ← hlog]
      exact Nat.mul_lt_mul_of_pos_right h (Nat.two_pow_pos _)
    omega

/-! ## the place of a whole number -/

theorem clamp_val (k : Nat) : (clamp k).val = min k infiniteMagnitude := by
  unfold clamp infiniteMagnitude
  split
  · exact (Nat.min_eq_left (by omega)).symm
  · exact (Nat.min_eq_right (by omega)).symm

theorem clamp_mono (h : n ≤ m) : (clamp n).val ≤ (clamp m).val := by
  rw [clamp_val, clamp_val]
  omega

/-- Where the double nearest to a whole number is on the line of all numbers. -/
def place (i : Int) : Int := signedKey (decide (i < 0)) (clamp (nearest i.natAbs 1)).val

theorem key?_ofInt (i : Int) : (ofInt i).key? = some (place i) := rfl

theorem place_of_neg {i : Int} (h : i < 0) :
    place i = -((clamp (nearest i.natAbs 1)).val : Int) := by
  simp [place, signedKey, h]

theorem place_of_nonneg {i : Int} (h : 0 ≤ i) :
    place i = (clamp (nearest i.natAbs 1)).val := by
  simp [place, signedKey, Int.not_lt.mpr h]

theorem place_mono {i j : Int} (h : i ≤ j) : place i ≤ place j := by
  obtain hi | hi := Int.lt_or_le i 0
  · obtain hj | hj := Int.lt_or_le j 0
    · have hle : j.natAbs ≤ i.natAbs := by omega
      have := clamp_mono (nearest_mono hle)
      rw [place_of_neg hi, place_of_neg hj]
      omega
    · rw [place_of_neg hi, place_of_nonneg hj]
      omega
  · have hj : 0 ≤ j := Int.le_trans hi h
    have hle : i.natAbs ≤ j.natAbs := by omega
    have := clamp_mono (nearest_mono hle)
    rw [place_of_nonneg hi, place_of_nonneg hj]
    omega

/-- Up to `2 ^ 53` on either side of zero no two whole numbers have the same place. -/
theorem place_lt_place {i j : Int} (h : i < j) (hi : i.natAbs ≤ 2 ^ 53) (hj : j.natAbs ≤ 2 ^ 53) :
    place i < place j := by
  have hfinite {n : Nat} (hn : n ≤ 2 ^ 53) : (clamp (nearest n 1)).val = nearest n 1 := by
    have htop : nearest (2 ^ 53) 1 ≤ infiniteMagnitude := by decide +kernel
    rw [clamp_val]
    exact Nat.min_eq_left (Nat.le_trans (nearest_mono hn) htop)
  obtain hi0 | hi0 := Int.lt_or_le i 0
  · rw [place_of_neg hi0, hfinite hi]
    obtain hj0 | hj0 := Int.lt_or_le j 0
    · have hlt : j.natAbs < i.natAbs := by omega
      have := nearest_lt_nearest hlt hi
      rw [place_of_neg hj0, hfinite hj]
      omega
    · have hne : i.natAbs ≠ 0 := by omega
      have := nearest_pos hne
      rw [place_of_nonneg hj0, hfinite hj]
      omega
  · have hj0 : 0 ≤ j := by omega
    have hlt : i.natAbs < j.natAbs := by omega
    have := nearest_lt_nearest hlt hj
    rw [place_of_nonneg hi0, place_of_nonneg hj0, hfinite hi, hfinite hj]
    omega

end Binary64

end TreeSift
