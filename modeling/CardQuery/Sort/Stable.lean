/-
**The stable sort of lists of any length.**

Up to 20 items are sorted by insertion, more by runs.  Runs that are not in order are sorted by
dividing them at a pivot: the items that are less than the pivot come before all others.  Where no
item is less, the items that are not greater are settled at once.  After too many divisions the items
are sorted by runs in a hurry.

The sort has no value where the halves of a small sort do not meet, which never happens when the order
is a total preorder.

Main definitions:

* `choosePivot` — the place of the pivot;
* `divide` — the items on either side of a pivot;
* `quickSort?`, `stableSort?` — sorting by division, and the whole sort.
-/

import CardQuery.Sort.Runs

set_option autoImplicit false

namespace CardQuery

variable {α : Type}

/-! ### The pivot -/

/-- Is the item at one place less than the one at another? -/
def lessAt (order : α → α → Ordering) (items : List α) (i j : Nat) : Bool :=
  match items[i]?, items[j]? with
  | some a, some b => order a b == .lt
  | _, _ => false

/-- The place of the median of three items. -/
def medianOfThree (less : Nat → Nat → Bool) (i j k : Nat) : Nat :=
  if less i j = less i k then (if less j k != less i j then k else j) else i

/-- The place of the median of three items, each of which is found in the same way among the `width`
items from its place on, as long as these are eight or more. -/
def medianFrom (less : Nat → Nat → Bool) : Nat → Nat → Nat → Nat → Nat → Nat
  | steps + 1, width, i, j, k =>
    if 8 ≤ width then
      let eighth := width / 8
      let median (i : Nat) := medianFrom less steps eighth i (i + eighth * 4) (i + eighth * 7)
      medianOfThree less (median i) (median j) (median k)
    else medianOfThree less i j k
  | 0, _, i, j, k => medianOfThree less i j k

/-- The place of the pivot, for eight items or more. -/
def choosePivot (order : α → α → Ordering) (items : List α) : Nat :=
  let eighth := items.length / 8
  medianFrom (lessAt order items) items.length eighth 0 (eighth * 4) (eighth * 7)

/-! ### Division -/

/-- The items before and after a pivot that pass a test, and those that do not, with the pivot among
either. -/
def divide (test : α → Bool) (pivotPasses : Bool) (before : List α) (pivot : α) (after : List α) :
    List α × List α :=
  let own (passes : Bool) := if pivotPasses = passes then [pivot] else []
  (before.filter test ++ own true ++ after.filter test,
    before.filter (!test ·) ++ own false ++ after.filter (!test ·))

/-- Sorts by division.  `limit` divisions may follow one another; `ancestor` is a pivot that no item is
less than. -/
def quickSort? (order : α → α → Ordering) (room : Nat) :
    Nat → Option α → List α → Option (List α)
  | limit, ancestor, items =>
    if items.length ≤ smallLength then smallSort? order items
    else
      match limit with
      | 0 => sortByRuns? order (smallSort? order) room true items
      | limit + 1 =>
        let place := choosePivot order items
        match items.drop place with
        | [] => none
        | pivot :: after =>
          let before := items.take place
          let below := divide (order · pivot == .lt) false before pivot after
          let upTo := divide (order pivot · != .lt) true before pivot after
          if ancestor.any (order · pivot != .lt) || below.1.isEmpty then
            (quickSort? order room limit none upTo.2).map (upTo.1 ++ ·)
          else do
            let right ← quickSort? order room limit (some pivot) below.2
            let left ← quickSort? order room limit ancestor below.1
            return left ++ right

/-! ### The whole sort -/

/-- How many items there is room for beside the given ones. -/
def roomFor (length : Nat) : Nat :=
  max 512 (max (length - length / 2) (min length 1000000))

/-- A list in ascending order; items that are not told apart keep their order. -/
def stableSort? (order : α → α → Ordering) (items : List α) : Option (List α) :=
  let room := roomFor items.length
  let sort (run : List α) := quickSort? order room (2 * run.length.log2) none run
  if items.length ≤ 20 then some (insertionSort order items)
  else sortByRuns? order sort room (items.length ≤ 2 * smallLength) items

end CardQuery
