/-
**Sorting a few items.**

Up to 20 items are sorted by insertion.  A few more are cut into two halves, each half is sorted, and
the halves are merged from both ends at once, half of the items from either end.  With an order that
is no total preorder the two ends may not meet; the sort notices this and gives up.

Main definitions:

* `insertDescending`, `insertAll`, `insertionSort` — sorting by insertion;
* `mergeFront` — merging from the front;
* `Merging`, `takeSteps`, `mergeFromEnds?` — merging from both ends;
* `sortTwo`, `sortFour`, `sortFew?`, `smallSort?` — sorting two items, four, eight, and up to 32.
-/

set_option autoImplicit false

namespace CardQuery

variable {α : Type}

/-! ### Insertion -/

/-- Inserts an item into a list in descending order, before the items that it is not less than. -/
def insertDescending (order : α → α → Ordering) (a : α) : List α → List α
  | [] => [a]
  | b :: rest =>
    if order a b = .lt then b :: insertDescending order a rest else a :: b :: rest

/-- Inserts further items, one after the other, into items in ascending order. -/
def insertAll (order : α → α → Ordering) (sorted items : List α) : List α :=
  (items.foldl (fun sorted a => insertDescending order a sorted) sorted.reverse).reverse

/-- A list in ascending order; items that are not told apart keep their order. -/
def insertionSort (order : α → α → Ordering) (items : List α) : List α := insertAll order [] items

/-! ### Merging -/

/-- Two lists in ascending order merged; of items that are not told apart those of the left list come
first. -/
def mergeFront (order : α → α → Ordering) (left right : List α) : List α :=
  left.merge right fun l r => order r l != .lt

/-- Two lists that are being merged: what has been taken from them, and what is left of either. -/
structure Merging (α : Type) where
  taken : List α
  left : List α
  right : List α

/-- A number of items from the front of two lists, one after the other. -/
def takeSteps (takesLeft : α → α → Bool) : Nat → List α → List α → Merging α
  | steps + 1, l :: left, r :: right =>
    if takesLeft l r then
      let m := takeSteps takesLeft steps left (r :: right)
      { m with taken := l :: m.taken }
    else
      let m := takeSteps takesLeft steps (l :: left) right
      { m with taken := r :: m.taken }
  | _, left, right => ⟨[], left, right⟩

/-- The item that is left over when there is an odd number of them, from the left list or from the
right. -/
def Merging.takeLast (m : Merging α) (isOdd fromLeft : Bool) : Merging α :=
  if !isOdd then m
  else if fromLeft then ⟨m.taken ++ m.left.take 1, m.left.drop 1, m.right⟩
  else ⟨m.taken ++ m.right.take 1, m.left, m.right.drop 1⟩

/-- Merges two lists, the right one as long as the left one or longer by one, from both ends at once.
Items that are not told apart are taken from the left list at the front and from the right list at the
back.  There is no result unless each end leaves what the other end takes. -/
def mergeFromEnds? (order : α → α → Ordering) (left right : List α) : Option (List α) :=
  let front := takeSteps (fun l r => order r l != .lt) left.length left right
  let back := takeSteps (fun l r => order r l == .lt) left.length left.reverse right.reverse
  let front := front.takeLast (left.length < right.length)
    (left.length < front.left.length + back.left.length)
  if front.left.length + back.left.length = left.length ∧
      front.right.length + back.right.length = right.length then
    some (front.taken ++ back.taken.reverse)
  else none

/-! ### Small sorts -/

/-- Two pairs in order merged.  The least and the greatest of the items are found first; of the other two
it is known which one comes first if they are not told apart. -/
def mergePairs (order : α → α → Ordering) (a b c d : α) : List α :=
  let (least, left, right, greatest) :=
    if order c a = .lt then
      if order d b = .lt then (c, a, d, b) else (c, a, b, d)
    else
      if order d b = .lt then (a, c, d, b) else (a, b, c, d)
  if order right left = .lt then [least, right, left, greatest] else [least, left, right, greatest]

/-- Two items in order. -/
def sortTwo (order : α → α → Ordering) (a b : α) : α × α :=
  if order b a = .lt then (b, a) else (a, b)

/-- Four items in order. -/
def sortFour (order : α → α → Ordering) (a b c d : α) : List α :=
  let (a, b) := sortTwo order a b
  let (c, d) := sortTwo order c d
  mergePairs order a b c d

/-- One item, four or eight in order. -/
def sortFew? (order : α → α → Ordering) : List α → Option (List α)
  | [a, b, c, d] => some (sortFour order a b c d)
  | [a, b, c, d, a', b', c', d'] =>
    mergeFromEnds? order (sortFour order a b c d) (sortFour order a' b' c' d')
  | items => some items

/-- How many items of each half of `length` items are sorted before the others are inserted. -/
def fewOf (length : Nat) : Nat := if 16 ≤ length then 8 else if 8 ≤ length then 4 else 1

/-- One half of `length` items in order. -/
def sortHalf? (order : α → α → Ordering) (length : Nat) (half : List α) : Option (List α) :=
  (sortFew? order (half.take (fewOf length))).map fun few =>
    insertAll order few (half.drop (fewOf length))

/-- The most items that are sorted half by half. -/
def smallLength : Nat := 32

/-- Sorts the two halves, and merges them. -/
def smallSort? (order : α → α → Ordering) (items : List α) : Option (List α) :=
  if items.length < 2 then some items
  else do
    let half := items.length / 2
    let left ← sortHalf? order items.length (items.take half)
    let right ← sortHalf? order items.length (items.drop half)
    mergeFromEnds? order left right

end CardQuery
