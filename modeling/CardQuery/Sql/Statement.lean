/-
**What a statement can hold.**

Keys stand inside quotes in the text of a statement and must not end them.  A statement takes a limited
number of operands, and its conditions are trees of limited height.  Parentheses add nothing to the
height of a tree.  A condition that looks at the elements of a list is a statement of its own, and its
height counts on top of that of the whole statement.

Main definitions:

* `Sql.Expr.keys`, `Sql.isContained` — the keys that an expression names, and those that keep to their
  quotes;
* `Sql.Expr.height`, `Sql.Expr.innerHeight` — the height of an expression, and of the statements in it;
* `Sql.fitsParams`, `Sql.fitsDepth`, `Sql.canPrepare` — can a statement be prepared?
-/

import CardQuery.Sql.Expression
import CardQuery.Sql.Path

set_option autoImplicit false

namespace CardQuery.Sql

/-- The most operands that a statement takes. -/
def mostParams : Nat := 32766

/-- The greatest height of the trees in a statement. -/
def mostDepth : Nat := 1000

namespace Expr

mutual

/-- The keys that an expression names. -/
def keys : Expr → List String
  | extract key => [key]
  | typeOf key => [key]
  | lengthOf key => [key]
  | binary _ left right => left.keys ++ right.keys
  | isIn e items => e.keys ++ keysOfItems items
  | isNotNull e => e.keys
  | not e => e.keys
  | coalesce e otherwise => e.keys ++ otherwise.keys
  | .exists key condition => key :: condition.keys
  | cases branches otherwise => keysOfBranches branches ++ otherwise.keys
  | paren e => e.keys
  | _ => []

/-- The keys that expressions name. -/
def keysOfItems : List Expr → List String
  | [] => []
  | e :: rest => e.keys ++ keysOfItems rest

/-- The keys that conditions and their results name. -/
def keysOfBranches : List (Expr × Expr) → List String
  | [] => []
  | (condition, result) :: rest => condition.keys ++ result.keys ++ keysOfBranches rest

end


mutual

/-- The height of the tree that an expression is read as. -/
def height : Expr → Nat
  | extract _ => 2
  | typeOf _ => 2
  | lengthOf _ => 2
  | element => 2
  | number _ => 1
  | label _ => 1
  | param _ => 1
  | binary _ left right => max left.height right.height + 1
  | isIn e items => max e.height (heightOfItems items) + 1
  | isNotNull e => e.height + 1
  | not e => e.height + 1
  | coalesce e otherwise => max e.height otherwise.height + 1
  | .exists _ condition => condition.height + 1
  | cases branches otherwise => max (heightOfBranches branches) otherwise.height + 1
  | paren e => e.height

/-- The height of the highest of some expressions. -/
def heightOfItems : List Expr → Nat
  | [] => 0
  | e :: rest => max e.height (heightOfItems rest)

/-- The height of the highest of some conditions and their results. -/
def heightOfBranches : List (Expr × Expr) → Nat
  | [] => 0
  | (condition, result) :: rest =>
    max (max condition.height result.height) (heightOfBranches rest)

end

mutual

/-- The height that the statements inside an expression add to it. -/
def innerHeight : Expr → Nat
  | binary _ left right => max left.innerHeight right.innerHeight
  | isIn e items => max e.innerHeight (innerHeightOfItems items)
  | isNotNull e => e.innerHeight
  | not e => e.innerHeight
  | coalesce e otherwise => max e.innerHeight otherwise.innerHeight
  | .exists _ condition => condition.height + condition.innerHeight
  | cases branches otherwise => max (innerHeightOfBranches branches) otherwise.innerHeight
  | paren e => e.innerHeight
  | _ => 0

/-- The height that the statements inside some expressions add to them. -/
def innerHeightOfItems : List Expr → Nat
  | [] => 0
  | e :: rest => max e.innerHeight (innerHeightOfItems rest)

/-- The height that the statements inside some conditions and their results add to them. -/
def innerHeightOfBranches : List (Expr × Expr) → Nat
  | [] => 0
  | (condition, result) :: rest =>
    max (max condition.innerHeight result.innerHeight) (innerHeightOfBranches rest)

end

end Expr

/-! ### Limits -/

/-- Does the key leave the text around it intact? -/
def isContained (key : String) : Bool := (literalText? key.toList).isSome

/-- Does a statement take the operands of a condition and some further ones? -/
def fitsParams (column : String) (e : Expr) (further : Nat) : Bool :=
  (e.params column).length + further ≤ mostParams

/-- The height of the condition of a statement: it asks for a model as well. -/
def statementHeight (e : Expr) : Nat := max 2 e.height + 1 + e.innerHeight

/-- Is the condition of a statement within the limit? -/
def fitsDepth (e : Expr) : Bool := statementHeight e ≤ mostDepth

/-- Can the statement be prepared that holds a condition and has further operands? -/
def canPrepare (column : String) (e : Expr) (further : Nat) : Bool :=
  e.keys.all isContained && fitsParams column e further && fitsDepth e

end CardQuery.Sql
