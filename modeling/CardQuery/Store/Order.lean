/-
**Ordering cards.**

Cards are ordered by the value at a key: numbers by value, then texts by their lower case, and cards
without a value last, also when the order is reversed.  Other values are not told apart.  Cards that
are not told apart keep their order.  Since this is not always a total preorder, the sort may give up.

Main definitions:

* `SortValue`, `SortValue.order` — what cards are ordered by;
* `SortKey.memoryOrder` — the order of cards;
* `arrangeBy?` — cards in order, unless the sort gives up.
-/

import CardQuery.Predicate.Matching
import CardQuery.Sort.Stable

set_option autoImplicit false

namespace CardQuery

/-- What a card is ordered by. -/
inductive SortValue where
  | number (value : Double)
  | text (lowered : String)
  | other
deriving DecidableEq, Repr

namespace SortValue

/-- What a stored value is ordered by. -/
def ofJson : Json → SortValue
  | .number n => number n.toDouble
  | .text s => text (Unicode.loweredText s)
  | _ => other

/-- Numbers come before all else. -/
def order : SortValue → SortValue → Ordering
  | number x, number y => x.order y
  | number _, _ => .lt
  | _, number _ => .gt
  | text s, text t => compare s t
  | _, _ => .eq

end SortValue

/-- The order of two cards; one without a value comes last in both directions. -/
def sortOrder (descending : Bool) : Option SortValue → Option SortValue → Ordering
  | some x, some y => if descending then (x.order y).swap else x.order y
  | some _, none => .lt
  | none, some _ => .gt
  | none, none => .eq

namespace SortKey

/-- The order of cards in memory. -/
def memoryOrder (k : SortKey) (a b : Json) : Ordering :=
  let value (card : Json) := (card.stored? (Json.pathOf k.key)).map SortValue.ofJson
  sortOrder k.descending (value a) (value b)

/-- Cards in order. -/
def arrange? (k : SortKey) (cards : List Json) : Option (List Json) :=
  stableSort? k.memoryOrder cards

end SortKey

/-- Cards in the order that a request may ask for. -/
def arrangeBy? (sort : Option SortKey) (cards : List Json) : Option (List Json) :=
  match sort with
  | none => some cards
  | some k => k.arrange? cards

end CardQuery
