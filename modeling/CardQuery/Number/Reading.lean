/-
**Numbers in queries.**

Numbers are written in ASCII digits with an optional sign.  A decimal has digits on at least one side
of its point and may have an exponent; infinity and the number that is none are words, in any case.

Main definitions:

* `readInt64?` — a whole number of 64 bits;
* `Double.read?` — a decimal, or a word that stands for a special value.
-/

import CardQuery.Number.Double

set_option autoImplicit false

namespace CardQuery

/-- The value of decimal digits. -/
def decimalValue (digits : List Char) : Nat :=
  digits.foldl (fun n c => n * 10 + (c.toNat - '0'.toNat)) 0

/-- The sign before a number; none counts as plus. -/
def splitSign : List Char → Bool × List Char
  | '-' :: rest => (true, rest)
  | '+' :: rest => (false, rest)
  | s => (false, s)

/-- A whole number of 64 bits. -/
def readInt64? (s : List Char) : Option Int :=
  let (negative, digits) := splitSign s
  if digits.isEmpty || !digits.all Char.isDigit then none
  else
    let n : Int := decimalValue digits
    let i := if negative then -n else n
    if fitsInt64 i then some i else none

namespace Double

/-- The exponent at the end of a decimal; an absent one is zero. -/
def readExponent? : List Char → Option Int
  | [] => some 0
  | c :: rest =>
    if c = 'e' ∨ c = 'E' then
      let (negative, digits) := splitSign rest
      if digits.isEmpty || !digits.all Char.isDigit then none
      else
        let n : Int := decimalValue digits
        some (if negative then -n else n)
    else none

/-- A decimal without sign. -/
def readDecimal? (negative : Bool) (s : List Char) : Option Reading :=
  let whole := s.takeWhile Char.isDigit
  let afterWhole := s.dropWhile Char.isDigit
  let (fraction, rest) := match afterWhole with
    | '.' :: rest => (rest.takeWhile Char.isDigit, rest.dropWhile Char.isDigit)
    | rest => ([], rest)
  if whole.isEmpty && fraction.isEmpty then none
  else
    (readExponent? rest).map fun exponent =>
      ofDecimal negative (decimalValue (whole ++ fraction)) (exponent - fraction.length)

/-- The number that a text stands for. -/
def read? (s : List Char) : Option Reading :=
  let (negative, rest) := splitSign s
  let word := String.ofList (rest.map Char.toLower)
  if word = "inf" ∨ word = "infinity" then some (.infinite negative)
  else if word = "nan" then some .notANumber
  else readDecimal? negative rest

end Double

end CardQuery
