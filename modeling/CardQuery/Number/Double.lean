/-
**Double-precision numbers as counts of the smallest one.**

Every finite double-precision number is a whole multiple of `2^-1074`, the least positive one.  A
number is therefore kept as a sign and a count of such units, so that order and equality are those
of the integers and no operation of the machine is involved.

The only operation that has to be said with care is rounding: `roundToGrid` sends a quotient of
naturals to the nearest count that has at most 53 significant bits, an exact half going to the
even neighbour.  Reading decimals, converting integers and scaling by powers of ten are all
instances of it.

Main definitions:

* `Double` — a sign and a number of units;
* `Double.signedUnits`, `Double.order` — the value as an integer number of units, and its order;
* `Double.ofRatio` — the double nearest to a quotient, if the quotient is in range;
* `Double.ofInt`, `Double.ofDecimal` — its instances for integers and decimals.
-/

import CardQuery.Number.Size

set_option autoImplicit false

namespace CardQuery

/-- A finite double-precision number: a sign, and a magnitude in units of `2^-1074`. -/
structure Double where
  negative : Bool
  units : Nat
deriving DecidableEq, Repr, Inhabited

namespace Double

/-- There are `2^unitBits` units in one. -/
def unitBits : Nat := 1074

/-- The number of units in one. -/
def unitsPerOne : Nat := twoTo unitBits

/-- Significant bits of a double. -/
def precision : Nat := 53

/-- Magnitudes from `2^1024` on are out of range. -/
def limit : Nat := twoTo (1024 + unitBits)

/-- Positive zero. -/
def zero : Double := ⟨false, 0⟩

/-- The value as a signed number of units; both zeros have the value 0. -/
def signedUnits (x : Double) : Int :=
  if x.negative then -(x.units : Int) else (x.units : Int)

/-- Doubles are ordered by value. -/
def order (x y : Double) : Ordering := compare x.signedUnits y.signedUnits

/-- The same magnitude with the other sign. -/
def opposite (x : Double) : Double := ⟨!x.negative, x.units⟩

/-! ### Rounding -/

/-- The quotient rounded to the nearest natural, an exact half to the even neighbour. -/
def roundQuotient (num den : Nat) : Nat :=
  let q := num / den
  let twice := 2 * (num % den)
  if twice < den then q
  else if den < twice then q + 1
  else if q % 2 = 0 then q else q + 1

/-- The number of low bits that a count has to leave zero so as to have `precision` bits. -/
def spareBits (count : Nat) : Nat := count.log2 + 1 - precision

/-- The nearest count with at most `precision` significant bits to the quotient, halves to even. -/
def roundToGrid (num den : Nat) : Nat :=
  let spare := spareBits (num / den)
  roundQuotient num (den * twoTo spare) * twoTo spare

/-- The double nearest to `num / den` with the given sign, if it is in range. -/
def ofRatio (negative : Bool) (num den : Nat) : Option Double :=
  let units := roundToGrid (num * unitsPerOne) den
  if units < limit then some ⟨negative, units⟩ else none

/-- The double nearest to an integer; an integer far out of range has none. -/
def ofInt? (i : Int) : Option Double := ofRatio (decide (i < 0)) i.natAbs 1

/-- The double nearest to an integer of machine size. -/
def ofInt (i : Int) : Double := (ofInt? i).getD zero

/-- The product of two doubles, rounded once, if it is in range. -/
def scaleUp (x y : Double) : Option Double :=
  ofRatio (x.negative != y.negative) (x.units * y.units) (twoTo (2 * unitBits))

/-- The quotient of two doubles, rounded once; it is out of range when the divisor is zero. -/
def scaleDown (x y : Double) : Option Double :=
  if y.units = 0 then none else ofRatio (x.negative != y.negative) x.units y.units

/-! ### Decimals -/

/-- What a decimal in a text stands for: a finite double, or one that is out of range. -/
inductive Reading where
  | finite (value : Double)
  | infinite (negative : Bool)
  | notANumber
deriving DecidableEq, Repr

/-- The number of decimal digits of a natural. -/
def decimalLength (n : Nat) : Nat := (Nat.toDigits 10 n).length

/-- The double nearest to `± digits * 10^exponent`.  Exponents far outside the range of the doubles
are decided by the size alone. -/
def ofDecimal (negative : Bool) (digits : Nat) (exponent : Int) : Reading :=
  if digits = 0 then .finite ⟨negative, 0⟩
  else
    let size := exponent + decimalLength digits
    if size > 400 then .infinite negative
    else if size < -400 then .finite ⟨negative, 0⟩
    else
      match ofRatio negative (digits * tenTo exponent.toNat) (tenTo (-exponent).toNat) with
      | some value => .finite value
      | none => .infinite negative

/-- The double nearest to `10^exponent` for an exponent that is in range. -/
def powerOfTen (exponent : Nat) : Double := (ofRatio false (tenTo exponent) 1).getD zero

/-- The number of halves, when the value is a whole number of halves. -/
def halves? (x : Double) : Option Int :=
  let unitsPerHalf := twoTo (unitBits - 1)
  if x.units % unitsPerHalf = 0 then
    let count := x.units / unitsPerHalf
    some (if x.negative then -(count : Int) else (count : Int))
  else none

end Double

end CardQuery
