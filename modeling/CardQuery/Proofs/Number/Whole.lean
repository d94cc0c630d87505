/-
**Whole numbers in documents.**

A document writes a whole number as an integer of machine size or as a double, and an operand that is a
small whole number equals it in either form.

Main definitions:

* `Json.Number.Denotes` — a number of a document is a whole number.

Main results:

* `Json.Number.Denotes.meets_equal_iff` — **a small whole number equals every number that denotes it**,
  and no other whole number.
-/

import CardQuery.Predicate.Matching
import CardQuery.Proofs.Number.Exact

set_option autoImplicit false

namespace CardQuery

namespace Json.Number

/-- The number is a whole one: an integer of machine size, or a double without a fraction. -/
inductive Denotes : Json.Number → Int → Prop where
  | integer {i : Int} (h : fitsInt64 i = true ∨ fitsNat64 i = true) : Denotes (.integer i) i
  | double {x : Double} {i : Int} (h : x.signedUnits = i * (Double.unitsPerOne : Int)) :
      Denotes (.double x) i

theorem unitsPerOne_pos : 0 < (Double.unitsPerOne : Int) := Int.natCast_pos.2 (twoTo_pos _)

/-- A number denotes one whole number. -/
theorem Denotes.eq_iff {n : Json.Number} {s : Int} (h : n.Denotes s) {i : Int} : s = i ↔ n.Denotes i := by
  constructor
  · rintro rfl
    exact h
  · intro hi
    cases h with
    | integer => cases hi with
      | integer => rfl
    | double hx => cases hi with
      | double hx' => exact Int.eq_of_mul_eq_mul_right (Int.ne_of_gt unitsPerOne_pos) (hx.symm.trans hx')

/-- A double is compared by its value. -/
theorem order_ofInt_eq_iff (x : Double) {i : Int} (hi : i.natAbs ≤ twoTo Double.precision) :
    x.order (Double.ofInt i) = .eq ↔ x.signedUnits = i * (Double.unitsPerOne : Int) := by
  rw [Double.order, Double.signedUnits_ofInt hi]
  exact Int.compare_eq_eq

/-- An integer beyond the signed ones is far above all small ones. -/
theorem order_ofInt_ne_eq {n : Nat} (h : fitsInt64 n = false) (h' : fitsNat64 n = true) {i : Int}
    (hi : i.natAbs ≤ twoTo Double.precision) : (Double.ofInt n).order (Double.ofInt i) ≠ .eq := by
  obtain ⟨hlow, hhigh⟩ : twoTo 63 ≤ n ∧ n < twoTo 64 := by
    have hword := int64Bound_le_of_fitsNat64 h h'
    rw [int64Bound] at hword
    change 9223372036854775808 ≤ n ∧ n < 18446744073709551616
    omega
  have hsmall : i < (twoTo 63 : Int) ∧ i.natAbs < twoTo 64 := by
    change i.natAbs ≤ 9007199254740992 at hi
    change i < 9223372036854775808 ∧ i.natAbs < 18446744073709551616
    omega
  have hword : (n : Int).natAbs < twoTo 64 := by rwa [Int.natAbs_natCast]
  have hlarge := Double.twoTo_le_rounded hlow
  rw [Double.order_ofInt hword hsmall.2 (by decide), Double.rounded_of_le hi, Ne, Int.compare_eq_eq]
  omega

/-- A signed integer is compared exactly. -/
theorem meets_equal_of_int64 {n : Json.Number} {s : Int} (h : n.int64? = some s) (i : Int) :
    Scalar.meets (.number n) .equal (.integer i) = true ↔ s = i := by
  simp only [Scalar.meets, Scalar.order?, h, Comparison.holds, beq_iff_eq]
  exact Int.compare_eq_eq

/-- Any other number is compared as a double. -/
theorem meets_equal_of_double {n : Json.Number} (h : n.int64? = none) (i : Int) :
    Scalar.meets (.number n) .equal (.integer i) = true ↔
      n.toDouble.order (Double.ofInt i) = .eq := by
  simp only [Scalar.meets, Scalar.order?, h, Comparison.holds, beq_iff_eq]

/-- **A small whole number equals every number that denotes it**, and no other whole number. -/
theorem Denotes.meets_equal_iff {n : Json.Number} {s : Int} (h : n.Denotes s) {i : Int}
    (hi : i.natAbs ≤ twoTo Double.precision) :
    Scalar.meets (.number n) .equal (.integer i) = true ↔ s = i := by
  cases h with
  | integer hsize =>
      cases hint : fitsInt64 s with
      | true =>
          have hread : (Json.Number.integer s).int64? = some s := by rw [int64?, if_pos hint]
          exact meets_equal_of_int64 hread i
      | false =>
          have hnat : fitsNat64 s = true := hsize.resolve_left (by simp [hint])
          obtain ⟨m, rfl⟩ : ∃ m : Nat, s = m := Int.eq_ofNat_of_zero_le (fitsNat64_iff.1 hnat).1
          have hread : (Json.Number.integer m).int64? = none := by rw [int64?, hint, if_neg Bool.false_ne_true]
          have hne := order_ofInt_ne_eq hint hnat hi
          rw [meets_equal_of_double hread]
          refine iff_of_false hne ?_
          rintro rfl
          exact hne (Int.compare_eq_eq.2 rfl)
  | @double x _ hx =>
      rw [meets_equal_of_double rfl, toDouble, order_ofInt_eq_iff x hi, hx]
      exact Int.mul_eq_mul_right_iff (Int.ne_of_gt unitsPerOne_pos)

end Json.Number

end CardQuery
