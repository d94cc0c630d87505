/-
**Powers, and numbers of machine size.**

Main definitions:

* `twoTo`, `tenTo` — powers of two and of ten;
* `fitsInt64`, `fitsNat64`, `fitsNat32` — whole numbers that a word of the machine holds;
* `int32?` — the word of 32 bits that a whole number is, if it is one.

Main results:

* `twoTo_succ`, `tenTo_succ` — a power is its base times the power before it;
* `twoTo_pos`, `tenTo_pos` — powers are positive;
* `fitsInt64_iff`, `fitsNat64_iff`, `fitsNat32_iff` — the bounds of the words;
* `fitsInt64_of_lt` — natural numbers below the bound are signed numbers of 64 bits;
* `int64Bound_le_of_fitsNat64` — where the other unsigned ones lie;
* `int32?_eq_some_iff` — the words of 32 bits are their own.
-/

set_option autoImplicit false

namespace CardQuery

/-! ### Powers -/

/-- A power of two. -/
def twoTo (n : Nat) : Nat := Nat.pow 2 n

/-- A power of ten. -/
def tenTo (n : Nat) : Nat := Nat.pow 10 n

theorem twoTo_succ (n : Nat) : twoTo (n + 1) = twoTo n * 2 := rfl

theorem tenTo_succ (n : Nat) : tenTo (n + 1) = tenTo n * 10 := rfl

theorem twoTo_pos (n : Nat) : 0 < twoTo n := Nat.pow_pos (by decide)

theorem tenTo_pos (n : Nat) : 0 < tenTo n := Nat.pow_pos (by decide)

/-! ### Words -/

/-- Signed numbers of 64 bits lie below `2^63`, and not below its opposite. -/
def int64Bound : Int := 9223372036854775808

/-- Is the integer a signed one of 64 bits? -/
def fitsInt64 (i : Int) : Bool := -int64Bound ≤ i && i < int64Bound

theorem fitsInt64_iff {i : Int} : fitsInt64 i = true ↔ -int64Bound ≤ i ∧ i < int64Bound := by
  rw [fitsInt64, Bool.and_eq_true, decide_eq_true_eq, decide_eq_true_eq]

theorem fitsInt64_of_lt {n : Nat} (h : n < int64Bound) : fitsInt64 n = true := by
  rw [int64Bound] at h
  rw [fitsInt64_iff, int64Bound]
  omega

/-- Is the integer an unsigned one of 64 bits, that is below `2^64`? -/
def fitsNat64 (i : Int) : Bool := 0 ≤ i && i < 18446744073709551616

theorem fitsNat64_iff {i : Int} : fitsNat64 i = true ↔ 0 ≤ i ∧ i < 18446744073709551616 := by
  rw [fitsNat64, Bool.and_eq_true, decide_eq_true_eq, decide_eq_true_eq]

/-- Unsigned numbers that are not signed ones lie between the bound and its double. -/
theorem int64Bound_le_of_fitsNat64 {i : Int} (h : fitsInt64 i = false) (h' : fitsNat64 i = true) :
    int64Bound ≤ i ∧ i < 2 * int64Bound := by
  rw [← Bool.not_eq_true, fitsInt64_iff] at h
  rw [fitsNat64_iff] at h'
  rw [int64Bound] at h ⊢
  omega

/-- Is the integer an unsigned one of 32 bits, that is below `2^32`? -/
def fitsNat32 (i : Int) : Bool := 0 ≤ i && i < 4294967296

theorem fitsNat32_iff {i : Int} : fitsNat32 i = true ↔ 0 ≤ i ∧ i < 4294967296 := by
  rw [fitsNat32, Bool.and_eq_true, decide_eq_true_eq, decide_eq_true_eq]

/-- Signed numbers of 32 bits lie below `2^31`, and not below its opposite. -/
def int32Bound : Int := 2147483648

/-- The signed number of 32 bits that an integer is; others than those have none. -/
def int32? (i : Int) : Option Int := if -int32Bound ≤ i ∧ i < int32Bound then some i else none

theorem int32?_eq_some_iff {i j : Int} : int32? i = some j ↔ (-int32Bound ≤ i ∧ i < int32Bound) ∧ i = j := by
  rw [int32?, Option.ite_none_right_eq_some, Option.some.injEq]

theorem int32?_of_fits {i : Int} (h : -int32Bound ≤ i) (h' : i < int32Bound) : int32? i = some i :=
  if_pos ⟨h, h'⟩

/-- The signed number of 64 bits that is nearest to an integer. -/
def nearestInt64 (i : Int) : Int :=
  if i < -int64Bound then -int64Bound else if i < int64Bound then i else int64Bound - 1

end CardQuery
