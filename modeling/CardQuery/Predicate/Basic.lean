/-
**Predicates on cards.**

A predicate is a condition on a card that no store is named in.  Keys are dotted paths; text is
compared without regard to case, and regular expressions are kept as they were written.

Main definitions:

* `Scalar`, `Comparison` — the operands and the kinds of comparisons;
* `Predicate` — conditions;
* `Predicate.negate`, `Predicate.conjunction`, `Predicate.disjunction` — combining conditions, in a
  form without superfluous nesting;
* `SortKey` — an order of the results.
-/

import CardQuery.Number.Notation
import CardQuery.Text.Quoted

set_option autoImplicit false

namespace CardQuery

/-- The operand of a comparison: a whole number of 64 bits, a double or a text. -/
inductive Scalar where
  | integer (value : Int)
  | real (value : Double)
  | text (value : String)
deriving DecidableEq, Repr, Inhabited

/-- The operand as it is shown: text in quotes. -/
def Scalar.shown : Scalar → String
  | integer i => toString i
  | real x => x.plain
  | text s => Text.quoted s

/-- A kind of comparison. -/
inductive Comparison where
  | equal
  | less
  | atMost
  | greater
  | atLeast
deriving DecidableEq, Repr, Inhabited

/-- Does a comparison hold of two values that are ordered so? -/
def Comparison.holds : Comparison → Ordering → Bool
  | equal, ordering => ordering == .eq
  | less, ordering => ordering == .lt
  | atMost, ordering => ordering != .gt
  | greater, ordering => ordering == .gt
  | atLeast, ordering => ordering != .lt

/-- A condition on a card. -/
inductive Predicate where
  /-- Every card meets it. -/
  | everything
  /-- A text at the key contains the needle. -/
  | contains (key needle : String)
  /-- The regular expression is found in a text at the key. -/
  | regex (key pattern : String)
  /-- A text at the key is the value. -/
  | textEquals (key value : String)
  /-- The value at the key stands in the relation to the operand. -/
  | compare (key : String) (comparison : Comparison) (value : Scalar)
  /-- The value at the key is one of the operands; nothing is one of none. -/
  | inList (key : String) (values : List Scalar)
  /-- There is a value at the key, and it is not null. -/
  | present (key : String)
  /-- The list at the key has the value among its elements. -/
  | hasElement (key value : String)
  /-- The list at the key has the value as its only element; a distinct one may occur repeatedly. -/
  | soleElement (key value : String) (distinct : Bool)
  /-- All bits of the mask are set in the number at the key. -/
  | bitsAllSet (key : String) (mask : Nat)
  /-- No bit of the mask is set in the number at the key. -/
  | bitsAllClear (key : String) (mask : Nat)
  /-- The condition is not met. -/
  | not (p : Predicate)
  /-- All conditions are met. -/
  | allOf (ps : List Predicate)
  /-- One of the conditions is met; with no conditions, none is. -/
  | anyOf (ps : List Predicate)
deriving Repr, Inhabited

namespace Predicate

/-- Does every card meet the condition, by its form? -/
def isEverything : Predicate → Bool
  | everything => true
  | _ => false

/-- The opposite; that of a negation is what it negates. -/
def negate : Predicate → Predicate
  | not p => p
  | p => not p

/-- The conditions that a condition contributes to a conjunction. -/
def conjuncts : Predicate → List Predicate
  | everything => []
  | allOf ps => ps
  | p => [p]

/-- The conjunction of a list, without a node where there are not two conditions. -/
def ofConjuncts : List Predicate → Predicate
  | [] => everything
  | [p] => p
  | ps => allOf ps

/-- All conditions of a list; conjunctions among them are taken apart. -/
def conjunction (ps : List Predicate) : Predicate := ofConjuncts (ps.flatMap conjuncts)

/-- One of the conditions of a list. -/
def disjunction : List Predicate → Predicate
  | [p] => p
  | ps => anyOf ps

end Predicate

/-- An order of the results by the value at a key. -/
structure SortKey where
  key : String
  descending : Bool
deriving DecidableEq, Repr, Inhabited

end CardQuery
