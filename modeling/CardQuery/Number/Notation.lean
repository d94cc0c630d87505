/-
**How numbers are written.**

Two layouts of the shortest decimal are in use.  Plain notation is always positional and leaves a
whole number without a point.  Document notation marks every double by a point or an exponent:
positional from `10^-5` up to `10^16`, with an exponent outside.

Main definitions:

* `Double.plain` — `0.00001`, `1`, `100000000000000000000`;
* `Double.document` — `1e-5` is `0.00001`, one is `1.0`, `10^16` is `1e+16`.
-/

import CardQuery.Number.Shortest

set_option autoImplicit false

namespace CardQuery

/-- A run of zeros. -/
def zeros (n : Nat) : String := String.ofList (List.replicate n '0')

namespace Decimal

/-- The decimal written positionally, without a point when it is a whole number. -/
def positional (d : Decimal) : String :=
  let text := Nat.repr d.digits
  if 0 ≤ d.exponent then text ++ zeros d.exponent.toNat
  else
    let places := (-d.exponent).toNat
    let padded := zeros (places + 1 - text.length) ++ text
    let whole := padded.length - places
    String.ofList (padded.toList.take whole) ++ "." ++ String.ofList (padded.toList.drop whole)

/-- The decimal with one digit before the point and an exponent, which has a sign. -/
def scientific (d : Decimal) : String :=
  let text := (Nat.repr d.digits).toList
  let lead := d.exponent + text.length - 1
  let fraction := text.drop 1
  String.ofList (text.take 1) ++ (if fraction.isEmpty then "" else "." ++ String.ofList fraction)
    ++ (if lead < 0 then "e-" else "e+") ++ Nat.repr lead.natAbs

end Decimal

namespace Double

/-- The sign of a number, also of negative zero. -/
def signText (x : Double) : String := if x.negative then "-" else ""

/-- Plain notation: the shortest digits, always positional. -/
def plain (x : Double) : String :=
  x.signText ++ (if x.units = 0 then "0" else (shortest .up x.units).positional)

/-- Document notation: a double always shows a point or an exponent, and is positional when its
leading digit stands between the fifth place after and the sixteenth place before the point. -/
def document (x : Double) : String :=
  x.signText ++
    if x.units = 0 then "0.0"
    else
      let d := shortest .toEven x.units
      let point := d.exponent + decimalLength d.digits
      if 0 ≤ d.exponent ∧ point ≤ 16 then d.positional ++ ".0"
      else if -5 < point ∧ point ≤ 16 then d.positional
      else d.scientific

end Double

end CardQuery
