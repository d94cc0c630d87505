/-
**Operators as relations.**

An operator asks for a comparison of orderings.  Where an ordering tells how two things compare, the
comparison holds exactly when they stand in the relation that the operator is the sign of; `:` is read
as `=`.

Main definitions:

* `Operator.Stands` — two things stand in the relation of an operator.

Main results:

* `Operator.holds_comparison_iff` — **the comparison of an operator decides its relation**.
-/

import CardQuery.Meaning
import Mathlib.Order.Compare
import Mathlib.Order.Lattice

set_option autoImplicit false

namespace CardQuery

/-- Two things stand in the relation that an operator is the sign of. -/
def Operator.Stands {α : Type} [LE α] [LT α] (op : Operator) (a b : α) : Prop :=
  match op with
  | has => a = b
  | equals => a = b
  | less => a < b
  | atMost => a ≤ b
  | greater => b < a
  | atLeast => b ≤ a

instance (op : Operator) (a b : Nat) : Decidable (op.Stands a b) :=
  match op with
  | .has => inferInstanceAs (Decidable (a = b))
  | .equals => inferInstanceAs (Decidable (a = b))
  | .less => inferInstanceAs (Decidable (a < b))
  | .atMost => inferInstanceAs (Decidable (a ≤ b))
  | .greater => inferInstanceAs (Decidable (b < a))
  | .atLeast => inferInstanceAs (Decidable (b ≤ a))

/-- **The comparison of an operator decides its relation.** -/
theorem Operator.holds_comparison_iff {α : Type} [LinearOrder α] (op : Operator) {a b : α}
    {ordering : Ordering} (h : ordering.Compares a b) :
    op.comparison.holds ordering = true ↔ op.Stands a b := by
  have hlt : ordering = .lt ↔ a < b := h.eq_lt
  have heq : ordering = .eq ↔ a = b := h.eq_eq
  have hgt : ordering = .gt ↔ b < a := h.eq_gt
  cases op with
  | has => rw [comparison, Comparison.holds, beq_iff_eq, heq, Stands]
  | equals => rw [comparison, Comparison.holds, beq_iff_eq, heq, Stands]
  | less => rw [comparison, Comparison.holds, beq_iff_eq, hlt, Stands]
  | atMost => rw [comparison, Comparison.holds, bne_iff_ne, Ne, hgt, not_lt, Stands]
  | greater => rw [comparison, Comparison.holds, beq_iff_eq, hgt, Stands]
  | atLeast => rw [comparison, Comparison.holds, bne_iff_ne, Ne, hlt, not_lt, Stands]

end CardQuery
