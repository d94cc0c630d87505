/-
**The fewest digits that read back.**

A double stands for all reals that round to it: those between the midpoints to its two neighbours,
the midpoints included when its significand is even.  `Double.shortest` selects the decimal with
the fewest digits in that interval, and of two such decimals the one nearer to the value; a tie
between them goes as the caller says.

Main definitions:

* `Decimal` — digits and a power of ten;
* `Double.Interval`, `Double.interval` — the reals that round to a double;
* `Double.shortest` — the selected decimal.
-/

import CardQuery.Number.Double

set_option autoImplicit false

namespace CardQuery

/-- The number `digits * 10^exponent`. -/
structure Decimal where
  digits : Nat
  exponent : Int
deriving DecidableEq, Repr, Inhabited

/-- Which of two equally near decimals is taken. -/
inductive Tie where
  | toEven
  | up
deriving DecidableEq, Repr

namespace Double

/-- The reals that round to a double, with both ends in quarters of a unit. -/
structure Interval where
  low : Nat
  high : Nat
  closed : Bool
deriving DecidableEq, Repr

/-- The interval of a magnitude: half a gap to either side, where the gap below a power of two is
half the gap above it. -/
def interval (units : Nat) : Interval :=
  let spare := spareBits units
  let gap := twoTo spare
  let significand := units / gap
  let narrow := significand = twoTo (precision - 1) ∧ 0 < spare
  { low := if narrow then 4 * units - gap else 4 * units - 2 * gap
    high := 4 * units + 2 * gap
    closed := significand % 2 = 0 }

/-- Compares a decimal with a number of quarter units, exactly. -/
def compareQuarters (d : Decimal) (quarters : Nat) : Ordering :=
  compare (d.digits * tenTo d.exponent.toNat * twoTo (unitBits + 2))
    (quarters * tenTo (-d.exponent).toNat)

/-- Does the decimal round to the double that the interval belongs to? -/
def Interval.contains (i : Interval) (d : Decimal) : Bool :=
  let low := compareQuarters d i.low
  let high := compareQuarters d i.high
  (low == .gt || (i.closed && low == .eq)) && (high == .lt || (i.closed && high == .eq))

/-- The least number of decimal places that brings a magnitude below one up to at least one. -/
def placesToOne (units : Nat) : Nat → Nat → Nat
  | 0, places => places
  | fuel + 1, places =>
    if unitsPerOne ≤ units * tenTo places then places else placesToOne units fuel (places + 1)

/-- The least `k` such that the magnitude is below `10^k`. -/
def magnitude (units : Nat) : Int :=
  let whole := units / unitsPerOne
  if whole = 0 then 1 - (placesToOne units 330 0 : Int) else decimalLength whole

/-- The two neighbours of a magnitude on the grid of multiples of `10^exponent`. -/
def gridNeighbour (units : Nat) (exponent : Int) : Nat :=
  units * tenTo (-exponent).toNat / (unitsPerOne * tenTo exponent.toNat)

/-- Is the magnitude nearer to the lower of its neighbours, or as near and the tie goes down? -/
def takesLower (units : Nat) (tie : Tie) (lower : Nat) (exponent : Int) : Bool :=
  let twice := 2 * units * tenTo (-exponent).toNat
  let middle := (2 * lower + 1) * (unitsPerOne * tenTo exponent.toNat)
  twice < middle || (twice == middle && (match tie with
    | .toEven => lower % 2 == 0
    | .up => false))

/-- The decimal on one grid that reads back, if there is one. -/
def onGrid? (units : Nat) (tie : Tie) (i : Interval) (exponent : Int) : Option Decimal :=
  let lower := gridNeighbour units exponent
  let below : Decimal := ⟨lower, exponent⟩
  let above : Decimal := ⟨lower + 1, exponent⟩
  match i.contains below, i.contains above with
  | true, true => some (if takesLower units tie lower exponent then below else above)
  | true, false => some below
  | false, true => some above
  | false, false => none

/-- Moves trailing zeros of the digits into the exponent. -/
def stripZeros : Nat → Decimal → Decimal
  | 0, d => d
  | fuel + 1, d =>
    if d.digits ≠ 0 ∧ d.digits % 10 = 0 then stripZeros fuel ⟨d.digits / 10, d.exponent + 1⟩ else d

/-- The decimal with the fewest digits that reads back to a non-zero magnitude; seventeen digits
are always enough. -/
def shortest (tie : Tie) (units : Nat) : Decimal :=
  if units = 0 then ⟨0, 0⟩
  else
    let top := magnitude units
    let i := interval units
    let grids := (List.range 17).map fun n => top - ((n + 1 : Nat) : Int)
    stripZeros 20 ((grids.findSome? (onGrid? units tie i)).getD
      ⟨units * Nat.pow 5 unitBits, -(unitBits : Int)⟩)

end Double

end CardQuery
