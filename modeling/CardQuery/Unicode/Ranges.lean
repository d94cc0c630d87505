/-
**Sets of code points as ascending ranges.**

A property of characters is a table of ranges of code points, in ascending order and apart from
each other.  Membership walks the table and stops where it passes the code point.

Main definitions:

* `Ranges` — a table;
* `Ranges.contains` — does the table list the code point?
-/

set_option autoImplicit false

namespace CardQuery.Unicode

/-- Ranges of code points, both ends included, in ascending order. -/
abbrev Ranges := List (Nat × Nat)

/-- Does the table list the code point? -/
def Ranges.contains : Ranges → Nat → Bool
  | [], _ => false
  | (low, high) :: rest, code =>
    if code < low then false
    else if code ≤ high then true
    else Ranges.contains rest code

/-- Does the table list the character? -/
def Ranges.has (r : Ranges) (c : Char) : Bool := r.contains c.toNat

end CardQuery.Unicode
