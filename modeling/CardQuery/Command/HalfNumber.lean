/-
**Whole and half numbers, and their labels.**

Some values of cards are texts that read as whole or half numbers.  Such a field is searched by the
labels that a value can have: the ladder lists every label between two bounds with its value.  A
whole number may carry a plus sign, zero either sign, and infinity has a label of its own.  Halves are
counted in words of 32 bits, and so are their magnitudes: bounds that lead out of these have no ladder,
and no command has such bounds.

Main definitions:

* `HalfNumber`, `HalfNumber.order` — a number of halves, or infinity;
* `Step`, `ladder?` — the labels between two bounds;
* `HalfRange` — bounds with their ladder, and the words that a command admits beside numbers;
* `HalfNumber.read?` — the number that a value of a query stands for.
-/

import CardQuery.Number.Reading
import CardQuery.Unicode.Case

set_option autoImplicit false

namespace CardQuery

/-- A whole or half number, or infinity. -/
inductive HalfNumber where
  | halves (count : Int)
  | infinity
deriving DecidableEq, Repr, Inhabited

namespace HalfNumber

/-- Numbers are ordered by value, infinity above all. -/
def order : HalfNumber → HalfNumber → Ordering
  | halves a, halves b => compare a b
  | halves _, infinity => .lt
  | infinity, halves _ => .gt
  | infinity, infinity => .eq

/-- The label of infinity. -/
def infinityLabel : String := "∞"

/-- The magnitude of a number of halves, as a word; that of the least word is none. -/
def magnitude? (count : Int) : Option Int := int32? count.natAbs

/-- The plain decimal of a number of halves: a sign, the whole part of its magnitude and the half. -/
def decimal? (count : Int) : Option String :=
  (magnitude? count).map fun size =>
    (if count < 0 then "-" else "") ++ toString (size.tdiv 2) ++ (if count % 2 = 0 then "" else ".5")

end HalfNumber

/-- A label and its value. -/
structure Step where
  label : String
  value : HalfNumber
deriving DecidableEq, Repr, Inhabited

/-- The labels of a number of halves with its plain decimal, which is the first of them. -/
def labelsOf (plain : String) (count : Int) : List String :=
  if count = 0 then [plain, "+0", "-0"]
  else if 0 < count ∧ count % 2 = 0 then [plain, "+" ++ plain]
  else [plain]

/-- The labels of a number of halves, each with the number beside it. -/
def steps? (count : Int) : Option (List Step) :=
  (HalfNumber.decimal? count).map fun plain =>
    (labelsOf plain count).map fun label => ⟨label, .halves count⟩

/-- The numbers of halves from `low` on, `length` of them. -/
def halvesFrom (low : Int) : Nat → List Int
  | 0 => []
  | length + 1 => low :: halvesFrom (low + 1) length

/-- Every label of the whole and half numbers between two whole bounds, and that of infinity.  There is
none where a doubled bound, or the magnitude of a number between them, is no word. -/
def ladder? (least most : Int) : Option (List Step) := do
  let low ← int32? (2 * least)
  let high ← int32? (2 * most)
  let steps ← (halvesFrom low (high + 1 - low).toNat).mapM steps?
  return steps.flatten ++ [⟨HalfNumber.infinityLabel, .infinity⟩]

/-- The bounds of the numbers of a command with the labels between them, and the words it admits beside
them. -/
structure HalfRange where
  least : Int
  most : Int
  ladder : List Step
  sentinels : List String
  ladder_eq : ladder? least most = some ladder
deriving DecidableEq, Repr

namespace HalfRange

/-- The range between two bounds, if they have a ladder. -/
def between? (least most : Int) (sentinels : List String) : Option HalfRange :=
  match h : ladder? least most with
  | some ladder => some ⟨least, most, ladder, sentinels, h⟩
  | none => none

/-- The usual bounds, and the one usual word. -/
def standard : HalfRange where
  least := -10
  most := 100
  ladder := (ladder? (-10) 100).get (by decide +kernel)
  sentinels := ["X"]
  ladder_eq := (Option.some_get _).symm

instance : Inhabited HalfRange := ⟨standard⟩

/-- The word that a value is, regardless of the case of A to Z. -/
def sentinel? (r : HalfRange) (raw : String) : Option String :=
  r.sentinels.find? fun word => Unicode.equalUpToAsciiCase word raw

end HalfRange

/-- The text after a plus sign, if it begins with one. -/
def afterPlus : List Char → List Char
  | '+' :: rest => rest
  | s => s

/-- The number that a value stands for: the sign of infinity, or a decimal whose nearest double is
a whole or half number. -/
def HalfNumber.read? (raw : String) : Option HalfNumber :=
  if raw = infinityLabel then some infinity
  else
    match Double.read? (afterPlus raw.toList) with
    | some (.finite x) => if x.units < twoTo (1023 + Double.unitBits) then x.halves?.map halves else none
    | _ => none

end CardQuery
