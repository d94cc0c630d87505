/-
**How SQL reads decimals.**

The digits of a decimal are taken as a whole number of 64 bits, those that have no room being left out,
and the power of ten is made as small as that number allows.  What is left of it is multiplied in,
hundreds first, then tens and ones, and every product is rounded to the 64 bits of extended precision.
The result may therefore miss the double that is nearest to the decimal.

Main definitions:

* `Extended`, `Extended.nearest`, `Extended.shifted` — numbers of extended precision, and powers of ten
  multiplied into them;
* `mostDigits`, `shrinkDigits`, `growDigits`, `stripDigits` — the whole number that stands for the digits;
* `readDecimal` — the double that a decimal is read as.
-/

import CardQuery.Number.Shortest

set_option autoImplicit false

namespace CardQuery.Sql

/-! ### Extended precision -/

/-- The number `significand * 2^exponent`. -/
structure Extended where
  significand : Nat
  exponent : Int
deriving DecidableEq, Repr, Inhabited

namespace Extended

/-- Significant bits. -/
def precision : Nat := 64

/-- The number of extended precision nearest to `num / den * 2^exponent`, halves to even. -/
def nearest (num den : Nat) (exponent : Int) : Extended :=
  let shift := precision + den.log2
  let spare := (num * twoTo shift / den).log2 + 1 - precision
  ⟨Double.roundQuotient (num * twoTo shift) (den * twoTo spare), exponent + spare - shift⟩

/-- The product of two numbers, rounded once. -/
def times (x y : Extended) : Extended :=
  nearest (x.significand * y.significand) 1 (x.exponent + y.exponent)

/-- The product with a factor that is taken `n` times, rounded every time. -/
def timesRepeated (factor : Extended) : Nat → Extended → Extended
  | 0, x => x
  | n + 1, x => timesRepeated factor n (x.times factor)

/-- A power of ten. -/
def powerOfTen (exponent : Int) : Extended :=
  nearest (tenTo exponent.toNat) (tenTo (-exponent).toNat) 0

/-- The product with a power of ten: hundreds of its exponent first, then tens, then ones. -/
def shifted (x : Extended) (exponent : Int) : Extended :=
  let factor (step : Int) := powerOfTen (if exponent < 0 then -step else step)
  let n := exponent.natAbs
  let x := timesRepeated (factor 100) (n / 100) x
  let x := timesRepeated (factor 10) (n % 100 / 10) x
  timesRepeated (factor 1) (n % 10) x

/-- The magnitude of the greatest double. -/
def greatest : Nat := Double.limit - twoTo (1024 - Double.precision + Double.unitBits)

/-- The magnitude of the nearest double.  What exceeds the greatest one is infinite, and stands at the
limit, above all doubles. -/
def units (x : Extended) : Nat :=
  let num := x.significand * twoTo x.exponent.toNat * Double.unitsPerOne
  let den := twoTo (-x.exponent).toNat
  if Extended.greatest * den < num then Double.limit else Double.roundToGrid num den

end Extended

/-! ### Digits -/

/-- Digits that come after a number of this size are left out. -/
def mostDigits : Nat := (18446744073709551615 - 9) / 10

/-- Leaves out the digits that have no room. -/
def shrinkDigits : Nat → Decimal → Decimal
  | 0, d => d
  | steps + 1, d =>
    if mostDigits ≤ d.digits / 10 then shrinkDigits steps ⟨d.digits / 10, d.exponent + 1⟩ else d

/-- Multiplies a positive power of ten into the digits as long as there is room. -/
def growDigits : Nat → Nat → Nat × Nat
  | digits, 0 => (digits, 0)
  | digits, exponent + 1 =>
    if digits < 18446744073709551615 / 10 then growDigits (digits * 10) exponent
    else (digits, exponent + 1)

/-- Divides the digits by a power of ten as long as they end in a zero. -/
def stripDigits : Nat → Nat → Nat × Nat
  | digits, 0 => (digits, 0)
  | digits, places + 1 =>
    if digits % 10 = 0 then stripDigits (digits / 10) places else (digits, places + 1)

/-- The same decimal with the smallest power of ten that the digits have room for. -/
def compactDigits (d : Decimal) : Decimal :=
  if 0 ≤ d.exponent then
    let grown := growDigits d.digits d.exponent.toNat
    ⟨grown.1, grown.2⟩
  else
    let stripped := stripDigits d.digits (-d.exponent).toNat
    ⟨stripped.1, -(stripped.2 : Int)⟩

/-! ### Reading -/

/-- The magnitude that a decimal is read as. -/
def readUnits (d : Decimal) : Nat :=
  if d.digits = 0 then 0
  else
    let d := compactDigits (shrinkDigits (Double.decimalLength d.digits) d)
    if d.exponent = 0 then Double.roundToGrid (d.digits * Double.unitsPerOne) 1
    else ((Extended.nearest d.digits 1 0).shifted d.exponent).units

/-- The double that a decimal is read as. -/
def readDecimal (negative : Bool) (d : Decimal) : Double := ⟨negative, readUnits d⟩

end CardQuery.Sql
