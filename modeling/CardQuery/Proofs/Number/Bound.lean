/-
**Integers around the bound of the signed words.**

Below `2^63` the doubles lie 1024 apart, and 2048 apart from there on.  An integer that is no further from it
than half of that is rounded to it, and all others stay on their side.

Main results:

* `Double.rounded_eq_bound` — **what is rounded to `2^63`**;
* `Double.rounded_lt_bound`, `Double.bound_lt_rounded` — what stays below or above it.
-/

import CardQuery.Proofs.Number.Exact
import Mathlib.Algebra.Group.Nat.Defs

set_option autoImplicit false

namespace CardQuery.Double

/-- Between two powers of two the doubles are evenly spaced. -/
theorem roundToGrid_of_log2 {n bits : Nat} (hlow : twoTo bits ≤ n) (hhigh : n < twoTo (bits + 1)) :
    roundToGrid n 1 = roundQuotient n (twoTo (bits + 1 - precision)) * twoTo (bits + 1 - precision) := by
  have hn : n ≠ 0 := Nat.ne_of_gt (Nat.lt_of_lt_of_le (twoTo_pos _) hlow)
  have hlog : n.log2 = bits := (Nat.log2_eq_iff hn).2 ⟨hlow, hhigh⟩
  rw [roundToGrid, Nat.div_one, Nat.one_mul, spareBits, hlog]

/-- Below `2^63` the doubles lie 1024 apart. -/
theorem roundToGrid_below {n : Nat} (hlow : 2 ^ 62 ≤ n) (hhigh : n < 2 ^ 63) :
    roundToGrid n 1 = roundQuotient n 1024 * 1024 := by
  have hgap : twoTo (62 + 1 - precision) = 1024 := rfl
  rw [roundToGrid_of_log2 hlow hhigh, hgap]

/-- From `2^63` on the doubles lie 2048 apart. -/
theorem roundToGrid_above {n : Nat} (hlow : 2 ^ 63 ≤ n) (hhigh : n < 2 ^ 64) :
    roundToGrid n 1 = roundQuotient n 2048 * 2048 := by
  have hgap : twoTo (63 + 1 - precision) = 2048 := rfl
  rw [roundToGrid_of_log2 hlow hhigh, hgap]

/-- What is further below `2^63` than half the distance of the doubles stays below it. -/
theorem rounded_lt_bound {i : Int} (h : i < int64Bound - 512) : rounded i < int64Bound := by
  rw [int64Bound] at h ⊢
  by_cases hneg : i < 0
  · rw [rounded, if_pos hneg]
    omega
  obtain ⟨n, rfl⟩ := Int.eq_ofNat_of_zero_le (Int.not_lt.1 hneg)
  rw [rounded_natCast]
  rcases Nat.lt_or_ge n (2 ^ 62) with hsmall | hlarge
  · have hle : roundToGrid n 1 ≤ 2 ^ 62 := roundToGrid_le_twoTo hsmall
    omega
  · rw [roundToGrid_below hlarge (by omega), roundQuotient]
    grind

/-- What is no further from `2^63` is rounded to it; exactly in between the even neighbour is taken. -/
theorem rounded_eq_bound {i : Int} (hlow : int64Bound - 512 ≤ i) (hhigh : i ≤ int64Bound + 1024) :
    rounded i = int64Bound := by
  rw [int64Bound] at hlow hhigh ⊢
  obtain ⟨n, rfl⟩ := Int.eq_ofNat_of_zero_le (by omega : 0 ≤ i)
  rw [rounded_natCast]
  rcases Nat.lt_or_ge n (2 ^ 63) with hbelow | habove
  · rw [roundToGrid_below (by omega) hbelow, roundQuotient]
    grind
  · rw [roundToGrid_above habove (by omega), roundQuotient]
    grind

/-- What is further above `2^63` stays above it. -/
theorem bound_lt_rounded {i : Int} (hlow : int64Bound + 1024 < i) (hhigh : i < 2 * int64Bound) :
    int64Bound < rounded i := by
  rw [int64Bound] at hlow hhigh ⊢
  obtain ⟨n, rfl⟩ := Int.eq_ofNat_of_zero_le (by omega : 0 ≤ i)
  rw [rounded_natCast, roundToGrid_above (by omega) (by omega), roundQuotient]
  grind

end CardQuery.Double
