/-
**Whole numbers that are doubles.**

A count of units is on the grid of the doubles when it leaves enough low bits zero, and rounding does not
change it then.  The whole numbers up to `2^53` are of this kind.  Larger numbers may be rounded, to a whole
number again and never past a power of two, so that comparing the nearest doubles is comparing the whole
numbers that they are.

Main definitions:

* `Double.rounded` — the whole number that the nearest double is.

Main results:

* `Double.roundToGrid_of_dvd`, `Double.ofRatio_of_grid` — counts on the grid are not rounded;
* `Double.roundToGrid_mul_twoTo` — rounding commutes with powers of two;
* `Double.twoTo_le_roundToGrid`, `Double.roundToGrid_le_twoTo` — it does not lead past one;
* `Double.signedUnits_ofInt` — **the double nearest to a whole number up to `2^53` is that number**;
* `Double.order_ofInt` — **doubles nearest to integers are ordered as the integers are when rounded**.
-/

import CardQuery.Number.Double

set_option autoImplicit false

namespace CardQuery.Double

/-! ### Counts on the grid -/

theorem twoTo_add (m n : Nat) : twoTo (m + n) = twoTo m * twoTo n := Nat.pow_add 2 m n

theorem twoTo_lt_twoTo {m n : Nat} (h : m < n) : twoTo m < twoTo n :=
  Nat.pow_lt_pow_right (by decide) h

theorem roundQuotient_of_dvd {num den : Nat} (hden : 0 < den) (h : den ∣ num) :
    roundQuotient num den = num / den := by
  have hmod : 2 * (num % den) < den := by rwa [Nat.mod_eq_zero_of_dvd h]
  rw [roundQuotient]
  exact if_pos hmod

theorem div_le_roundQuotient (num den : Nat) : num / den ≤ roundQuotient num den := by
  unfold roundQuotient
  grind

theorem roundQuotient_le (num den : Nat) : roundQuotient num den ≤ num / den + 1 := by
  unfold roundQuotient
  grind

/-- A count on the grid of the doubles is not rounded. -/
theorem roundToGrid_of_dvd {num den count : Nat} (hden : 0 < den) (heq : num = den * count)
    (h : twoTo (spareBits count) ∣ count) : roundToGrid num den = count := by
  have hdiv : num / den = count := by rw [heq, Nat.mul_div_cancel_left _ hden]
  have hdvd : den * twoTo (spareBits count) ∣ num := heq ▸ Nat.mul_dvd_mul_left den h
  rw [roundToGrid, hdiv, roundQuotient_of_dvd (Nat.mul_pos hden (twoTo_pos _)) hdvd, heq,
    Nat.mul_div_mul_left _ _ hden, Nat.div_mul_cancel h]

/-- A quotient on the grid is a double when it is in range. -/
theorem ofRatio_of_grid {num den count : Nat} (hround : roundToGrid (num * unitsPerOne) den = count)
    (hlimit : count < limit) (negative : Bool) : ofRatio negative num den = some ⟨negative, count⟩ := by
  simp only [ofRatio, hround, hlimit, if_true]

/-- A count with few bits more than it has zeros at its end is on the grid. -/
theorem twoTo_spareBits_dvd {count bits : Nat} (hlt : count < twoTo (precision + bits))
    (hdvd : twoTo bits ∣ count) : twoTo (spareBits count) ∣ count := by
  rcases Nat.eq_zero_or_pos count with rfl | hpos
  · exact Nat.dvd_zero _
  · have hlog : count.log2 < precision + bits := (Nat.log2_lt (Nat.ne_of_gt hpos)).2 hlt
    have hspare : spareBits count ≤ bits := by
      rw [spareBits]
      omega
    exact Nat.dvd_trans (Nat.pow_dvd_pow 2 hspare) hdvd

/-- Numbers up to `2^53` are on the grid, whatever power of two they are multiplied with. -/
theorem twoTo_spareBits_dvd_scaled {n : Nat} (h : n ≤ twoTo precision) (bits : Nat) :
    twoTo (spareBits (n * twoTo bits)) ∣ n * twoTo bits := by
  rcases Nat.lt_or_eq_of_le h with hlt | rfl
  · have hcount : n * twoTo bits < twoTo (precision + bits) := by
      rw [twoTo_add]
      exact Nat.mul_lt_mul_of_pos_right hlt (twoTo_pos _)
    exact twoTo_spareBits_dvd hcount (Nat.dvd_mul_left _ _)
  · have hlt : twoTo (precision + bits) < twoTo (precision + (bits + 1)) :=
      Nat.pow_lt_pow_right (by decide) (Nat.lt_succ_self _)
    have hdvd : twoTo (bits + 1) ∣ twoTo (precision + bits) := by
      refine Nat.pow_dvd_pow 2 ?_
      rw [precision]
      omega
    rw [← twoTo_add]
    exact twoTo_spareBits_dvd hlt hdvd

theorem scaled_lt {n : Nat} (h : n ≤ twoTo precision) (bits : Nat) :
    n * twoTo bits < twoTo (1024 + bits) := by
  have hle : n * twoTo bits ≤ twoTo (precision + bits) := by
    rw [twoTo_add]
    exact Nat.mul_le_mul_right _ h
  have hlt : precision + bits < 1024 + bits := by
    rw [precision]
    omega
  exact Nat.lt_of_le_of_lt hle (twoTo_lt_twoTo hlt)

/-! ### Rounding and powers of two -/

/-- Numbers up to `2^53` are not rounded. -/
theorem roundToGrid_of_le {n : Nat} (h : n ≤ twoTo precision) : roundToGrid n 1 = n := by
  have hdvd := twoTo_spareBits_dvd_scaled h 0
  have hone : n * twoTo 0 = n := Nat.mul_one n
  rw [hone] at hdvd
  exact roundToGrid_of_dvd Nat.one_pos (Nat.one_mul _).symm hdvd

/-- Rounding a quotient does not depend on how it is written. -/
theorem roundQuotient_mul_mul (num den : Nat) {k : Nat} (hk : 0 < k) :
    roundQuotient (num * k) (den * k) = roundQuotient num den := by
  have htwice : 2 * (num % den * k) = 2 * (num % den) * k := (Nat.mul_assoc _ _ _).symm
  simp only [roundQuotient, Nat.mul_div_mul_right _ _ hk, Nat.mul_mod_mul_right, htwice,
    Nat.mul_lt_mul_right hk]

theorem log2_mul_twoTo {n : Nat} (hn : n ≠ 0) (bits : Nat) : (n * twoTo bits).log2 = n.log2 + bits := by
  have hpos : n * twoTo bits ≠ 0 := Nat.mul_ne_zero hn (Nat.ne_of_gt (twoTo_pos bits))
  refine (Nat.log2_eq_iff hpos).2 ⟨?_, ?_⟩
  · rw [Nat.pow_add]
    exact Nat.mul_le_mul_right _ (Nat.log2_self_le hn)
  · rw [Nat.add_right_comm, Nat.pow_add]
    exact Nat.mul_lt_mul_of_pos_right Nat.lt_log2_self (twoTo_pos bits)

/-- **Rounding commutes with powers of two.** -/
theorem roundToGrid_mul_twoTo (n bits : Nat) :
    roundToGrid (n * twoTo bits) 1 = roundToGrid n 1 * twoTo bits := by
  rcases Nat.le_total n (twoTo precision) with hsmall | hlarge
  · -- neither number is rounded
    rw [roundToGrid_of_le hsmall]
    exact roundToGrid_of_dvd Nat.one_pos (Nat.one_mul _).symm (twoTo_spareBits_dvd_scaled hsmall bits)
  · have hn : n ≠ 0 := Nat.ne_of_gt (Nat.lt_of_lt_of_le (twoTo_pos _) hlarge)
    have hlog : precision ≤ n.log2 := (Nat.le_log2 hn).2 hlarge
    have hspare : spareBits (n * twoTo bits) = spareBits n + bits := by
      rw [spareBits, spareBits, log2_mul_twoTo hn]
      omega
    simp only [roundToGrid, Nat.div_one, Nat.one_mul, hspare, twoTo_add, Nat.mul_assoc,
      roundQuotient_mul_mul n _ (twoTo_pos bits)]

/-- Rounding does not lead below a power of two. -/
theorem twoTo_le_roundToGrid {count bits : Nat} (h : twoTo bits ≤ count) :
    twoTo bits ≤ roundToGrid count 1 := by
  have hpos : count ≠ 0 := Nat.ne_of_gt (Nat.lt_of_lt_of_le (twoTo_pos bits) h)
  have hbits : bits ≤ count.log2 := (Nat.le_log2 hpos).2 h
  have hspare : spareBits count ≤ count.log2 := by
    rw [spareBits, precision]
    omega
  have hdvd : twoTo (spareBits count) ∣ twoTo count.log2 := Nat.pow_dvd_pow 2 hspare
  have hround : twoTo count.log2 / twoTo (spareBits count) ≤
      roundQuotient count (1 * twoTo (spareBits count)) := by
    rw [Nat.one_mul]
    exact Nat.le_trans (Nat.div_le_div_right (Nat.log2_self_le hpos)) (div_le_roundQuotient _ _)
  rw [roundToGrid, Nat.div_one]
  calc
    twoTo bits ≤ twoTo count.log2 := Nat.pow_le_pow_right (by decide) hbits
    _ = twoTo count.log2 / twoTo (spareBits count) * twoTo (spareBits count) :=
        (Nat.div_mul_cancel hdvd).symm
    _ ≤ _ := Nat.mul_le_mul_right _ hround

/-- Rounding does not lead above a power of two. -/
theorem roundToGrid_le_twoTo {count bits : Nat} (h : count < twoTo bits) :
    roundToGrid count 1 ≤ twoTo bits := by
  rcases Nat.eq_zero_or_pos count with rfl | hpos
  · exact Nat.zero_le _
  · have hlog : count.log2 < bits := (Nat.log2_lt (Nat.ne_of_gt hpos)).2 h
    have hspare : spareBits count ≤ bits := by
      rw [spareBits, precision]
      omega
    have hdvd : twoTo (spareBits count) ∣ twoTo bits := Nat.pow_dvd_pow 2 hspare
    have hdiv : count / twoTo (spareBits count) < twoTo bits / twoTo (spareBits count) :=
      Nat.div_lt_div_of_lt_of_dvd hdvd h
    have hround := roundQuotient_le count (twoTo (spareBits count))
    rw [roundToGrid, Nat.div_one, Nat.one_mul]
    calc
      _ ≤ twoTo bits / twoTo (spareBits count) * twoTo (spareBits count) :=
          Nat.mul_le_mul_right _ (by omega)
      _ = twoTo bits := Nat.div_mul_cancel hdvd

/-! ### The nearest double -/

/-- The whole number that the double nearest to an integer is. -/
def rounded (i : Int) : Int :=
  if i < 0 then -(roundToGrid i.natAbs 1 : Int) else (roundToGrid i.natAbs 1 : Int)

theorem rounded_natCast (n : Nat) : rounded n = (roundToGrid n 1 : Int) := by
  rw [rounded, if_neg (Int.not_lt.2 (Int.natCast_nonneg n)), Int.natAbs_natCast]

/-- Whole numbers up to `2^53` are doubles themselves. -/
theorem rounded_of_le {i : Int} (h : i.natAbs ≤ twoTo precision) : rounded i = i := by
  rw [rounded, roundToGrid_of_le h]
  split <;> omega

theorem twoTo_le_rounded {n bits : Nat} (h : twoTo bits ≤ n) : (twoTo bits : Int) ≤ rounded n := by
  rw [rounded_natCast]
  exact Int.ofNat_le.2 (twoTo_le_roundToGrid h)

/-- The double nearest to an integer is a whole number. -/
theorem signedUnits_ofInt_eq {i : Int} {top : Nat} (h : i.natAbs < twoTo top) (htop : top < 1024) :
    (ofInt i).signedUnits = rounded i * (unitsPerOne : Int) := by
  have hround : roundToGrid (i.natAbs * unitsPerOne) 1 = roundToGrid i.natAbs 1 * unitsPerOne :=
    roundToGrid_mul_twoTo _ _
  have hlimit : roundToGrid i.natAbs 1 * unitsPerOne < limit := by
    have hle : roundToGrid i.natAbs 1 * unitsPerOne ≤ twoTo (top + unitBits) := by
      rw [twoTo_add]
      exact Nat.mul_le_mul_right _ (roundToGrid_le_twoTo h)
    exact Nat.lt_of_le_of_lt hle (twoTo_lt_twoTo (by omega))
  rw [ofInt, ofInt?, ofRatio_of_grid hround hlimit, Option.getD_some, signedUnits, rounded]
  by_cases hneg : i < 0
  · rw [if_pos (decide_eq_true hneg), if_pos hneg, Int.natCast_mul, Int.neg_mul]
  · rw [if_neg (by simpa using hneg), if_neg hneg, Int.natCast_mul]

/-- **The double nearest to a whole number up to `2^53`** is that number. -/
theorem signedUnits_ofInt {i : Int} (h : i.natAbs ≤ twoTo precision) :
    (ofInt i).signedUnits = i * (unitsPerOne : Int) := by
  have hlt : i.natAbs < twoTo (precision + 1) :=
    Nat.lt_of_le_of_lt h (twoTo_lt_twoTo (Nat.lt_succ_self _))
  rw [signedUnits_ofInt_eq hlt (by decide), rounded_of_le h]

/-- **Doubles nearest to integers are ordered** as the integers are when they are rounded. -/
theorem order_ofInt {i j : Int} {top : Nat} (hi : i.natAbs < twoTo top) (hj : j.natAbs < twoTo top)
    (htop : top < 1024) : (ofInt i).order (ofInt j) = compare (rounded i) (rounded j) := by
  have hpos : 0 < (unitsPerOne : Int) := Int.natCast_pos.2 (twoTo_pos _)
  rw [order, signedUnits_ofInt_eq hi htop, signedUnits_ofInt_eq hj htop]
  rcases Int.lt_trichotomy (rounded i) (rounded j) with hlt | heq | hgt
  · rw [Int.compare_eq_lt.2 hlt, Int.compare_eq_lt.2 (Int.mul_lt_mul_of_pos_right hlt hpos)]
  · rw [heq, Int.compare_eq_eq.2 rfl, Int.compare_eq_eq.2 rfl]
  · rw [Int.compare_eq_gt.2 hgt, Int.compare_eq_gt.2 (Int.mul_lt_mul_of_pos_right hgt hpos)]

end CardQuery.Double
