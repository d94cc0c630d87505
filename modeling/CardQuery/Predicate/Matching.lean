/-
**Cards that meet a predicate.**

A value on a card is looked up at its key, and null counts as absent.  A text condition is met by a
text, by the text of a number or a truth value, and by any such element of a list.  Numbers compare
with numbers and texts with texts; all other comparisons fail.

Main definitions:

* `Json.texts` — the texts at a value;
* `Scalar.order?` — the order of a stored value and an operand;
* `Predicate.test?` — the test of a predicate, which exists unless a regular expression in it is
  malformed.
-/

import CardQuery.Json.Writer
import CardQuery.Predicate.Basic
import CardQuery.Regex.Matching
import CardQuery.Regex.Reader
import CardQuery.Unicode.Case

set_option autoImplicit false

namespace CardQuery

open Unicode (lowered)

/-! ### Stored values -/

/-- The text of a value that has one. -/
def Json.textForm? : Json → Option String
  | .text s => some s
  | .number n => some n.text
  | .bool b => some (if b then "true" else "false")
  | _ => none

/-- The texts of a value: those of the elements of a list, or its own. -/
def Json.texts : Json → List String
  | .list items => items.filterMap Json.textForm?
  | value => value.textForm?.toList

/-- The value at a path; null counts as absent. -/
def Json.stored? (card : Json) (path : List String) : Option Json :=
  match card.at? path with
  | some .null => none
  | found => found

/-- The texts at a path. -/
def Json.textsAt (card : Json) (path : List String) : List String :=
  match card.stored? path with
  | some value => value.texts
  | none => []

/-- The number at a path as a set of bits; it is a natural number of 64 bits. -/
def Json.bitsAt? (card : Json) (path : List String) : Option Nat :=
  match card.stored? path with
  | some (.number n) => n.nat64?
  | _ => none

/-! ### Comparisons -/

/-- The order of a stored value and an operand, if they compare.  Numbers compare exactly when both
are whole and of 64 bits with sign, and as doubles otherwise. -/
def Scalar.order? (stored : Json) : Scalar → Option Ordering
  | .integer i =>
    match stored with
    | .number n =>
      match n.int64? with
      | some m => some (Ord.compare m i)
      | none => some (n.toDouble.order (Double.ofInt i))
    | _ => none
  | .real x =>
    match stored with
    | .number n => some (n.toDouble.order x)
    | _ => none
  | .text t =>
    match stored with
    | .text s => some (Ord.compare s t)
    | _ => none

/-- Does the stored value stand in the relation to the operand? -/
def Scalar.meets (stored : Json) (comparison : Comparison) (value : Scalar) : Bool :=
  match value.order? stored with
  | some ordering => comparison.holds ordering
  | none => false

/-- Does a text begin with another? -/
def beginsWith : List Char → List Char → Bool
  | _, [] => true
  | [], _ :: _ => false
  | c :: s, d :: needle => c == d && beginsWith s needle

/-- Does a text contain another? -/
def containsText (needle : List Char) : List Char → Bool
  | [] => needle.isEmpty
  | c :: s => beginsWith (c :: s) needle || containsText needle s

/-! ### Tests -/

namespace Predicate

/-- The test that some text at the key passes. -/
def textTest (key : String) (passes : String → Bool) : Json → Bool :=
  let path := Json.pathOf key
  fun card => (card.textsAt path).any passes

/-- The test that the value at the key is present and passes. -/
def storedTest (key : String) (passes : Json → Bool) : Json → Bool :=
  let path := Json.pathOf key
  fun card =>
    match card.stored? path with
    | some value => passes value
    | none => false

/-- The test that the number at the key is a set of bits and passes. -/
def bitsTest (key : String) (passes : Nat → Bool) : Json → Bool :=
  let path := Json.pathOf key
  fun card =>
    match card.bitsAt? path with
    | some bits => passes bits
    | none => false

/-- The test that a text is the value up to case. -/
def equalsText (value : String) : String → Bool :=
  let value := lowered value.toList
  fun text => lowered text.toList == value

/-- The test that a text contains the needle up to case. -/
def containsNeedle (needle : String) : String → Bool :=
  let needle := lowered needle.toList
  fun text => containsText needle (lowered text.toList)

/-- The test that texts are all the value up to case, and that there is one or, if equal ones count
once, at least one. -/
def soleTest (value : String) (distinct : Bool) (texts : List String) : Bool :=
  (if distinct then !texts.isEmpty else texts.length == 1) && texts.all (equalsText value)

mutual

/-- The test of a predicate, or the first regular expression in it that is malformed. -/
def test? : Predicate → Except String (Json → Bool)
  | everything => .ok fun _ => true
  | contains key needle => .ok (textTest key (containsNeedle needle))
  | regex key pattern =>
    match Regex.parse? true pattern with
    | some p => .ok (textTest key fun text => p.occursIn text.toList)
    | none => .error pattern
  | textEquals key value => .ok (textTest key (equalsText value))
  | compare key comparison value => .ok (storedTest key fun stored => value.meets stored comparison)
  | inList key values =>
    .ok (storedTest key fun stored => values.any fun value => value.meets stored .equal)
  | present key => .ok (storedTest key fun _ => true)
  | hasElement key value => .ok (textTest key (equalsText value))
  | soleElement key value distinct =>
    let path := Json.pathOf key
    .ok fun card => soleTest value distinct (card.textsAt path)
  | bitsAllSet key mask => .ok (bitsTest key fun bits => bits &&& mask == mask)
  | bitsAllClear key mask => .ok (bitsTest key fun bits => bits &&& mask == 0)
  | not p =>
    match p.test? with
    | .ok f => .ok fun card => !f card
    | .error e => .error e
  | allOf ps =>
    match testAll? ps with
    | .ok fs => .ok fun card => fs.all fun f => f card
    | .error e => .error e
  | anyOf ps =>
    match testAll? ps with
    | .ok fs => .ok fun card => fs.any fun f => f card
    | .error e => .error e

/-- The tests of the predicates of a list. -/
def testAll? : List Predicate → Except String (List (Json → Bool))
  | [] => .ok []
  | p :: ps =>
    match p.test? with
    | .error e => .error e
    | .ok f =>
      match testAll? ps with
      | .ok fs => .ok (f :: fs)
      | .error e => .error e

end

end Predicate

end CardQuery
