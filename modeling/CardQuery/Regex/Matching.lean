/-
**Searching a text.**

The places of a text are numbered from 0, and a set of places is a number whose bits they are.  A
pattern carries a set of places to the set of places where a piece may end that begins in the first
set; the search asks whether the set of all places is carried to a non-empty one.  All places are
followed at once, so that no choice is ever taken back.

Main definitions:

* `Walk`, `Pattern.onText` — a pattern whose tests are answered for one text;
* `Walk.run` — the places reached from a set of places;
* `Pattern.occursIn` — is there a piece of the text that the pattern describes?
-/

import CardQuery.Number.Size
import CardQuery.Regex.Pattern

set_option autoImplicit false

namespace CardQuery.Regex

/-- A pattern for one text: single characters and conditions are replaced by the set of the places
where they are met. -/
inductive Walk where
  | stay
  | take (places : Nat)
  | check (places : Nat)
  | seq (v w : Walk)
  | choice (v w : Walk)
  | repeated (w : Walk) (least : Nat) (most : Nat)

/-- The set of places whose answers are given in order. -/
def placesOf : List Bool → Nat
  | [] => 0
  | b :: rest => 2 * placesOf rest + (if b then 1 else 0)

/-- For every place of a text but the last: is the character there in the set? -/
def charAnswers (s : CharSet) (t : List Char) : List Bool := t.map s.has

/-- For every place of a text: does the condition hold there? -/
def anchorAnswers (a : Anchor) : Option Char → List Char → List Bool
  | before, [] => [a.holds before none]
  | before, c :: rest => a.holds before (some c) :: anchorAnswers a (some c) rest

/-- The pattern with its tests answered for a text.  A repetition without limit is limited by the
number of places, which is as good. -/
def Pattern.onText (t : List Char) : Pattern → Walk
  | empty => .stay
  | one s => .take (placesOf (charAnswers s t))
  | anchor a => .check (placesOf (anchorAnswers a none t))
  | seq p q => .seq (p.onText t) (q.onText t)
  | choice p q => .choice (p.onText t) (q.onText t)
  | repeated p least most => .repeated (p.onText t) least (most.getD (least + t.length + 1))

/-- Applies a function a number of times, or until it changes nothing. -/
def iterate (f : Nat → Nat) : Nat → Nat → Nat
  | 0, places => places
  | n + 1, places =>
    let next := f places
    if next = places then places else iterate f n next

/-- Adds the places that a function reaches, a number of times or until there are no new ones. -/
def spread (f : Nat → Nat) : Nat → Nat → Nat
  | 0, places => places
  | n + 1, places =>
    let next := places ||| f places
    if next = places then places else spread f n next

/-- The places reached from a set of places. -/
def Walk.run : Walk → Nat → Nat
  | stay, places => places
  | take allowed, places => (places &&& allowed) <<< 1
  | check allowed, places => places &&& allowed
  | seq v w, places => w.run (v.run places)
  | choice v w, places => v.run places ||| w.run places
  | repeated w least most, places =>
    if most < least then 0 else spread w.run (most - least) (iterate w.run least places)

/-- Is there a piece of the text that the pattern describes? -/
def Pattern.occursIn (p : Pattern) (t : List Char) : Bool :=
  (p.onText t).run (twoTo (t.length + 1) - 1) != 0

end CardQuery.Regex
