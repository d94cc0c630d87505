/-
**Comparing whole numbers.**

A token for a number compares the number at its key with its value.  Signed integers of 64 bits are compared
as they are.  An integer beyond them is compared as a double, and this is exact as well, except where both
numbers are rounded to `2^63`: then they count as equal, although the stored one is the greater.

Main definitions:

* `Scalar.SameDouble` — a stored integer and an operand that are both rounded to `2^63`.

Main results:

* `Scalar.order?_integer` — **the order of a stored integer and an integer operand**;
* `Scalar.meets_integer_iff` — when the verdict of an operator is the one of its relation;
* `Argument.number_compares` — **what tokens with an integer ask of integers**.
-/

import CardQuery.Proofs.Comparison
import CardQuery.Proofs.Filtering
import CardQuery.Proofs.Number.Bound

set_option autoImplicit false

namespace CardQuery

open Unicode (trimmed)

/-! ### Values -/

namespace Scalar

/-- A stored integer beyond the signed ones, and an operand below, that are both rounded to `2^63`. -/
def SameDouble (s i : Int) : Prop :=
  int64Bound ≤ s ∧ s ≤ int64Bound + 1024 ∧ int64Bound - 512 ≤ i

instance (s i : Int) : Decidable (SameDouble s i) := inferInstanceAs (Decidable (_ ∧ _ ∧ _))

variable {s i : Int}

theorem SameDouble.lt (h : SameDouble s i) (hi : fitsInt64 i = true) : i < s :=
  Int.lt_of_lt_of_le (fitsInt64_iff.1 hi).2 h.1

/-- An integer beyond the signed ones is rounded to a double above all operands, or to the one to which
the greatest of them are rounded. -/
theorem order_double (hs : int64Bound ≤ s) (hs' : s < 2 * int64Bound) (hi : fitsInt64 i = true) :
    (Double.ofInt s).order (Double.ofInt i) = if SameDouble s i then .eq else .gt := by
  have hword : s.natAbs < twoTo 64 ∧ i.natAbs < twoTo 64 := by
    rw [fitsInt64_iff] at hi
    rw [int64Bound] at hs hs' hi
    change s.natAbs < 18446744073709551616 ∧ i.natAbs < 18446744073709551616
    omega
  have hoperand : Double.rounded i ≤ int64Bound := by
    by_cases hnear : int64Bound - 512 ≤ i
    · refine Int.le_of_eq (Double.rounded_eq_bound hnear ?_)
      have hlt := (fitsInt64_iff.1 hi).2
      omega
    · exact Int.le_of_lt (Double.rounded_lt_bound (Int.not_le.1 hnear))
  rw [Double.order_ofInt hword.1 hword.2 (by decide)]
  by_cases hstored : s ≤ int64Bound + 1024
  · rw [Double.rounded_eq_bound (by omega) hstored]
    by_cases hnear : int64Bound - 512 ≤ i
    · have hsame : SameDouble s i := ⟨hs, hstored, hnear⟩
      rw [if_pos hsame, Int.compare_eq_eq]
      refine (Double.rounded_eq_bound hnear ?_).symm
      have hlt := hsame.lt hi
      omega
    · rw [if_neg fun h => hnear h.2.2, Int.compare_eq_gt]
      exact Double.rounded_lt_bound (Int.not_le.1 hnear)
  · rw [if_neg fun h => hstored h.2.1, Int.compare_eq_gt]
    exact Int.lt_of_le_of_lt hoperand (Double.bound_lt_rounded (Int.not_le.1 hstored) hs')

/-- **The order of a stored integer and an integer operand** is that of the integers, unless both are
rounded to the same double. -/
theorem order?_integer (hs : fitsInt64 s = true ∨ fitsNat64 s = true) (hi : fitsInt64 i = true) :
    (integer i).order? (.number (.integer s)) =
      some (if SameDouble s i then .eq else Ord.compare s i) := by
  cases hsigned : fitsInt64 s with
  | true =>
      have hnot : ¬SameDouble s i := fun h => absurd h.1 (Int.not_le.2 (fitsInt64_iff.1 hsigned).2)
      simp only [order?, Json.Number.int64?, hsigned, if_true, if_neg hnot]
  | false =>
      have hword := int64Bound_le_of_fitsNat64 hsigned (hs.resolve_left (by simp [hsigned]))
      have hgreater : Ord.compare s i = .gt :=
        Int.compare_eq_gt.2 (Int.lt_of_lt_of_le (fitsInt64_iff.1 hi).2 hword.1)
      simp only [order?, Json.Number.int64?, hsigned, Bool.false_eq_true, if_false, Json.Number.toDouble,
        order_double hword.1 hword.2 hi, hgreater]

/-- Of the operators only `<` and `>=` do not tell equal from greater. -/
theorem holds_eq_iff_gt (op : Operator) :
    (op.comparison.holds .eq = true ↔ op.comparison.holds .gt = true) ↔ op = .less ∨ op = .atLeast := by
  cases op <;> decide

/-- **The verdict of an operator** on integers is that of its relation, unless both are rounded to the same
double and the operator tells equal from greater. -/
theorem meets_integer_iff (hs : fitsInt64 s = true ∨ fitsNat64 s = true) (hi : fitsInt64 i = true)
    (op : Operator) :
    (meets (.number (.integer s)) op.comparison (.integer i) = true ↔ op.Stands s i) ↔
      ¬SameDouble s i ∨ op = .less ∨ op = .atLeast := by
  have hcompares : (Ord.compare s i).Compares s i := (compare_iff _ _).1 rfl
  simp only [meets, order?_integer hs hi, ← op.holds_comparison_iff hcompares]
  by_cases hsame : SameDouble s i
  · have hgreater : Ord.compare s i = .gt := Int.compare_eq_gt.2 (hsame.lt hi)
    rw [if_pos hsame, hgreater, holds_eq_iff_gt]
    simp only [hsame, not_true_eq_false, false_or]
  · rw [if_neg hsame]
    exact iff_of_true Iff.rfl (.inl hsame)

end Scalar

/-! ### Tokens -/

theorem fitsInt64_of_readInt64? {s : List Char} {i : Int} (h : readInt64? s = some i) :
    fitsInt64 i = true := by
  unfold readInt64? at h
  grind

/-- **What tokens with an integer ask of integers.**  A card that stores an integer passes just if it stands
in the relation of the operator to the value, with one exception: two numbers that are both rounded to `2^63`
count as equal. -/
theorem Argument.number_compares {a : Argument} {allowReal : Bool}
    (hkind : a.command.kind = .number allowReal) {raw : String} (hraw : a.operand = .text raw) {i : Int}
    (hread : readInt64? (trimmed raw).toList = some i) :
    ∃ test, a.FiltersBy (.compare a.key a.operator.comparison (.integer i)) test ∧
      ∀ (card : Json) (s : Int), card.stored? (Json.pathOf a.key) = some (.number (.integer s)) →
        fitsInt64 s = true ∨ fitsNat64 s = true →
        ((test card = true ↔ a.operator.Stands s i) ↔
          ¬Scalar.SameDouble s i ∨ a.operator = .less ∨ a.operator = .atLeast) := by
  refine ⟨_, filtersBy_number hkind hraw ?_, fun card s hstored hs => ?_⟩
  · rw [Binding.numberCondition, readScalar?, hread]
  · rw [← Scalar.meets_integer_iff hs (fitsInt64_of_readInt64? hread)]
    simp only [Predicate.holds, Predicate.storedTest, hstored]

/-- The greatest signed integer is told from the greatest unsigned one, but not from the integer after it. -/
theorem Argument.number_compares_bound :
    let c : Command :=
      ⟨"cmc", "cmc", [], Operator.all, [.negation], none, false, [], .number true, none⟩
    let a : Argument := ⟨⟨c, none, .text "9223372036854775807", .equals, []⟩, none, []⟩
    let card (s : Int) := Json.object [("cmc", .number (.integer s))]
    ∃ test, a.FiltersBy (.compare "cmc" .equal (.integer 9223372036854775807)) test ∧
      test (card 9223372036854775807) = true ∧ test (card 9223372036854775806) = false ∧
      test (card 18446744073709551615) = false ∧ test (card 9223372036854775808) = true := by
  intro c a card
  have hread : readInt64? (trimmed "9223372036854775807").toList = some 9223372036854775807 := by
    decide +kernel
  have hpath : Json.pathOf a.key = ["cmc"] := by decide +kernel
  have hstored (s : Int) : (card s).stored? (Json.pathOf a.key) = some (.number (.integer s)) := by
    rw [hpath]
    rfl
  obtain ⟨test, hfilters, hverdict⟩ := number_compares (a := a) rfl rfl hread
  have hexact {s : Int} (hs : fitsInt64 s = true ∨ fitsNat64 s = true)
      (hnot : ¬Scalar.SameDouble s 9223372036854775807) :
      test (card s) = true ↔ s = 9223372036854775807 :=
    (hverdict (card s) s (hstored s) hs).2 (.inl hnot)
  refine ⟨test, hfilters, ?_, ?_, ?_, ?_⟩
  · exact (hexact (.inl (by decide)) (by decide)).2 rfl
  · exact Bool.eq_false_iff.2 fun h => absurd ((hexact (.inl (by decide)) (by decide)).1 h) (by decide)
  · exact Bool.eq_false_iff.2 fun h => absurd ((hexact (.inr (by decide)) (by decide)).1 h) (by decide)
  · -- here the verdict is not that of the relation, which does not hold
    have hwrong := (hverdict (card 9223372036854775808) _ (hstored _) (.inr (by decide))).not.2 (by decide)
    by_contra hfalse
    refine hwrong (iff_of_false hfalse ?_)
    change ¬(9223372036854775808 : Int) = 9223372036854775807
    decide

end CardQuery
