/-
**Sorting by runs.**

Items are cut into runs, which are sorted or left to be sorted, and neighbouring runs are merged.
Which neighbours are merged first is decided by the place of the cut between them: each cut has a
depth in an imagined tree of merges over all items, and deeper cuts are closed first.  Two runs that
are not sorted are put behind one another as long as there is room to sort them together.

Main definitions:

* `Run`, `nextRun?`, `cutRuns?` — the runs of a list;
* `mergeRuns`, `joinRuns?` — two runs made one;
* `closeCuts?`, `mergeAll?` — merging in the order of the cuts;
* `sortByRuns?` — the whole sort.
-/

import CardQuery.Number.Size
import CardQuery.Sort.Small

set_option autoImplicit false

namespace CardQuery

variable {α : Type}

/-! ### Runs -/

/-- Items that follow one another, in order or still to be sorted. -/
structure Run (α : Type) where
  items : List α
  isSorted : Bool

/-- The items that follow `a` as long as each continues the one before it, and the rest. -/
def spanNext (continues : α → α → Bool) (a : α) : List α → List α × List α
  | [] => ([], [])
  | b :: rest =>
    if continues a b then
      let run := spanNext continues b rest
      (b :: run.1, run.2)
    else ([], b :: rest)

/-- The items at the front that are in order already, in ascending order, and the rest.  Items that
descend are turned round, and only items that do so strictly. -/
def presorted (order : α → α → Ordering) : List α → List α × List α
  | a :: b :: rest =>
    if order b a = .lt then
      let run := spanNext (fun x y => order y x == .lt) a (b :: rest)
      ((a :: run.1).reverse, run.2)
    else
      let run := spanNext (fun x y => order y x != .lt) a (b :: rest)
      (a :: run.1, run.2)
  | [a] => ([a], [])
  | [] => ([], [])

/-- The next run and the rest: items that are in order already if there are enough of them; else a
few items that are sorted at once, or items to be sorted later. -/
def nextRun? (order : α → α → Ordering) (enough : Nat) (eager : Bool) (items : List α) :
    Option (Run α × List α) :=
  let front := presorted order items
  if enough ≤ front.1.length then some (⟨front.1, true⟩, front.2)
  else if eager then
    (smallSort? order (items.take smallLength)).map fun sorted =>
      (⟨sorted, true⟩, items.drop smallLength)
  else some (⟨items.take enough, false⟩, items.drop enough)

/-- All runs.  Every run has an item, so that as many steps as items are enough. -/
def cutRuns? (order : α → α → Ordering) (enough : Nat) (eager : Bool) :
    Nat → List α → Option (List (Run α))
  | _, [] => some []
  | 0, _ :: _ => none
  | steps + 1, a :: items => do
    let (run, rest) ← nextRun? order enough eager (a :: items)
    let runs ← cutRuns? order enough eager steps rest
    return run :: runs

/-! ### Two runs made one -/

/-- Two lists in descending order merged; of items that are not told apart those of the right list come
first. -/
def mergeBack (order : α → α → Ordering) : List α → List α → List α
  | l :: left, r :: right =>
    if order r l = .lt then l :: mergeBack order left (r :: right)
    else r :: mergeBack order (l :: left) right
  | [], right => right
  | left, [] => left

/-- Two lists in ascending order merged, from the front unless the right one is shorter. -/
def mergeRuns (order : α → α → Ordering) (left right : List α) : List α :=
  if left.length ≤ right.length then mergeFront order left right
  else (mergeBack order left.reverse right.reverse).reverse

/-- The items of a run in order. -/
def Run.sorted? (sort : List α → Option (List α)) (r : Run α) : Option (List α) :=
  if r.isSorted then some r.items else sort r.items

/-- Two neighbouring runs made one.  Unless both are still to be sorted and there is room for both,
they are sorted and merged. -/
def joinRuns? (order : α → α → Ordering) (sort : List α → Option (List α)) (room : Nat)
    (left right : Run α) : Option (Run α) :=
  if left.isSorted || right.isSorted || room < left.items.length + right.items.length then do
    let first ← left.sorted? sort
    let second ← right.sorted? sort
    return ⟨mergeRuns order first second, true⟩
  else some ⟨left.items ++ right.items, false⟩

/-! ### The order of merges -/

/-- How many of 64 binary digits stand before the first one that is set. -/
def leadingZeros (n : Nat) : Nat := if n = 0 then 64 else 63 - n.log2

/-- The depth of the cut at `middle` between runs from `start` and up to `stop`, among `length` items:
how far the middles of the two runs agree, as fractions of all items. -/
def cutDepth (length start middle stop : Nat) : Nat :=
  let scale := (twoTo 62 + length - 1) / length
  leadingZeros ((scale * (start + middle)) ^^^ (scale * (middle + stop)))

/-- Closes the cuts that are at least as deep as the next one.  The open runs are listed from the
nearest on, each with the depth of the cut behind it. -/
def closeCuts? (join : Run α → Run α → Option (Run α)) (depth : Nat) :
    List (Run α × Nat) → Run α → Option (List (Run α × Nat) × Run α)
  | (left, cut) :: opened, run =>
    if depth ≤ cut then do
      let joined ← join left run
      closeCuts? join depth opened joined
    else some ((left, cut) :: opened, run)
  | [], run => some ([], run)

/-- Merges the runs that follow, the last of the earlier ones ending at `middle`. -/
def mergeAll? (join : Run α → Run α → Option (Run α)) (length : Nat) :
    List (Run α × Nat) → Nat → Run α → List (Run α) → Option (Run α)
  | opened, _, run, [] => (closeCuts? join 0 opened run).map (·.2)
  | opened, middle, run, next :: runs => do
    let stop := middle + next.items.length
    let depth := cutDepth length (middle - run.items.length) middle stop
    let (opened, run) ← closeCuts? join depth opened run
    mergeAll? join length ((run, depth) :: opened) stop next runs

/-! ### The whole sort -/

/-- Roughly the square root. -/
def roughRoot (n : Nat) : Nat :=
  let shift := (1 + n.log2) / 2
  (twoTo shift + n / twoTo shift) / 2

/-- How many items in order already are worth a run of their own. -/
def enoughOf (length : Nat) : Nat :=
  if length ≤ 4096 then min (length - length / 2) 64 else roughRoot length

/-- Sorts by runs.  Runs that are still to be sorted are given to `sort`; in a hurry there are none. -/
def sortByRuns? (order : α → α → Ordering) (sort : List α → Option (List α)) (room : Nat)
    (eager : Bool) (items : List α) : Option (List α) := do
  match ← cutRuns? order (enoughOf items.length) eager items.length items with
  | [] => return items
  | run :: runs =>
    let whole ← mergeAll? (joinRuns? order sort room) items.length [] run.items.length run runs
    whole.sorted? sort

end CardQuery
