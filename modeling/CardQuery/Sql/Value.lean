/-
**Values of SQL.**

Null compares with nothing.  Otherwise numbers come before texts; a whole number and a double are
compared exactly, and texts by their characters.

Main definitions:

* `Sql.Value` — values;
* `Sql.Value.order`, `Sql.Value.compared` — the order that rows are sorted by, and the one that
  comparisons ask for;
* `Sql.Value.truth?`, `Sql.Value.bits` — values as conditions and as sets of bits;
* `Sql.Value.ofJson` — the value that a part of a document is.
-/

import CardQuery.Json.Writer
import CardQuery.Sql.Decimal
import CardQuery.Sql.Expression

set_option autoImplicit false

namespace CardQuery.Sql

/-- A value. -/
inductive Value where
  | null
  | integer (value : Int)
  | real (value : Double)
  | text (value : String)
deriving DecidableEq, Repr, Inhabited

namespace Value

/-! ### Order -/

/-- The number of units of `2^-1074` in a number. -/
def units? : Value → Option Int
  | integer i => some (i * (Double.unitsPerOne : Int))
  | real x => some x.signedUnits
  | _ => none

/-- The class of a value: null, numbers and texts, in this order. -/
def rank : Value → Nat
  | null => 0
  | integer _ => 1
  | real _ => 1
  | text _ => 2

/-- The order that rows are sorted by. -/
def order (a b : Value) : Ordering :=
  match a, b with
  | text s, text t => compare s t
  | _, _ =>
    match a.units?, b.units? with
    | some m, some n => compare m n
    | _, _ => compare a.rank b.rank

/-- The order of two values, neither of which is null. -/
def compared (a b : Value) : Option Ordering :=
  if a = null ∨ b = null then none else some (a.order b)

/-! ### Conditions -/

/-- A truth value as a value. -/
def ofBool (b : Bool) : Value := integer (if b then 1 else 0)

/-- A truth value that may be unknown as a value. -/
def ofTruth : Option Bool → Value
  | some b => ofBool b
  | none => null

/-- A value as a condition: numbers other than zero are true. -/
def truth? : Value → Option Bool
  | null => none
  | integer i => some (i != 0)
  | real x => some (x.units != 0)
  | text _ => some false

/-! ### Sets of bits -/

/-- The whole part of a double. -/
def wholePart (x : Double) : Int := Int.tdiv x.signedUnits (Double.unitsPerOne : Int)

/-- The whole number at the head of a text, after blanks and a sign. -/
def leadingInteger (s : List Char) : Int :=
  let s := s.dropWhile fun c => c == ' ' || (9 ≤ c.toNat && c.toNat ≤ 13)
  let (negative, s) := match s with
    | '-' :: rest => (true, rest)
    | '+' :: rest => (false, rest)
    | rest => (false, rest)
  let n : Int := (s.takeWhile Char.isDigit).foldl (fun n c => n * 10 + (c.toNat - '0'.toNat)) 0
  if negative then -n else n

/-- A value as a set of 64 bits; null is none. -/
def bits? : Value → Option (BitVec 64)
  | null => none
  | integer i => some (BitVec.ofInt 64 i)
  | real x => some (BitVec.ofInt 64 (nearestInt64 (wholePart x)))
  | text s => some (BitVec.ofInt 64 (nearestInt64 (leadingInteger s.toList)))

/-- The common bits of two values. -/
def bitAnd (a b : Value) : Value :=
  match a.bits?, b.bits? with
  | some x, some y => integer (x &&& y).toInt
  | _, _ => null

/-! ### Parts of documents -/

/-- The double that the text of a number is read as. -/
def realOf : Json.Number → Double
  | .integer i => readDecimal (i < 0) ⟨i.natAbs, 0⟩
  | .double x => readDecimal x.negative (Double.shortest .toEven x.units)

/-- The value of a number: a whole number of 64 bits with sign, or what its text is read as. -/
def ofNumber (n : Json.Number) : Value :=
  match n.int64? with
  | some i => integer i
  | none => real (realOf n)

/-- The value that a part of a document is; lists and objects are their text. -/
def ofJson : Json → Value
  | .null => null
  | .bool b => ofBool b
  | .number n => ofNumber n
  | .text s => text s
  | j => text j.compact

/-- The value of an operand. -/
def ofParam : Param → Value
  | .text s => text s
  | .integer i => integer i
  | .real x => real x

end Value

end CardQuery.Sql
