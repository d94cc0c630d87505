/-
**Conditions in SQL.**

Cards are stored as JSON text in a column of a table.  A condition on them is an expression over the
values at paths of that text.  The tree of an expression has a node for every pair of parentheses
that is written, and operands that are given by users stand at holes: they are passed beside the
text and never become part of it.

Main definitions:

* `Sql.Param`, `Sql.Expr` — operands and expressions;
* `Sql.Fragment`, `Sql.Expr.fragments` — the text of an expression as words and holes;
* `Sql.Expr.clause`, `Sql.Expr.params` — the text with question marks, and what they stand for;
* `Sql.Expr.inlined` — the text with the operands filled in, to be read by people.
-/

import CardQuery.Number.Notation

set_option autoImplicit false

namespace CardQuery.Sql

/-- An operand that is passed beside the text. -/
inductive Param where
  | text (value : String)
  | integer (value : Int)
  | real (value : Double)
deriving DecidableEq, Repr, Inhabited

/-- An operator between two expressions. -/
inductive BinaryOp where
  | regexp
  | equal
  | less
  | atMost
  | greater
  | atLeast
  | bitAnd
  | and
  | or
deriving DecidableEq, Repr, Inhabited

/-- The sign of an operator. -/
def BinaryOp.sign : BinaryOp → String
  | regexp => "REGEXP"
  | equal => "="
  | less => "<"
  | atMost => "<="
  | greater => ">"
  | atLeast => ">="
  | bitAnd => "&"
  | and => "AND"
  | or => "OR"

/-- An expression over the card of a row. -/
inductive Expr where
  /-- The value at a key. -/
  | extract (key : String)
  /-- The name of the type of the value at a key. -/
  | typeOf (key : String)
  /-- The length of the list at a key. -/
  | lengthOf (key : String)
  /-- The element that the condition of `exists` is about. -/
  | element
  | number (value : Nat)
  | label (text : String)
  | param (p : Param)
  | binary (op : BinaryOp) (left right : Expr)
  | isIn (e : Expr) (items : List Expr)
  | isNotNull (e : Expr)
  | not (e : Expr)
  /-- The first of two values that is not null. -/
  | coalesce (e otherwise : Expr)
  /-- Some element at a key meets the condition. -/
  | exists (key : String) (condition : Expr)
  /-- The result that belongs to the first of the conditions that is met. -/
  | cases (branches : List (Expr × Expr)) (otherwise : Expr)
  | paren (e : Expr)
deriving Repr, Inhabited

/-! ### Text -/

/-- A piece of text: fixed words, or a hole for an operand. -/
inductive Fragment where
  | word (text : String)
  | hole (p : Param)
deriving DecidableEq, Repr

/-- The path of a key. -/
def pathOf (key : String) : String := "$." ++ key

/-- A function of the value at a key. -/
def call (name column key : String) : String :=
  name ++ "(" ++ column ++ ", \x27" ++ pathOf key ++ "\x27)"

namespace Expr

mutual

/-- The text of an expression over the cards in a column. -/
def fragments (column : String) : Expr → List Fragment
  | extract key => [.word (call "json_extract" column key)]
  | typeOf key => [.word (call "json_type" column key)]
  | lengthOf key => [.word (call "json_array_length" column key)]
  | element => [.word "e.value"]
  | number n => [.word (Nat.repr n)]
  | label text => [.word ("\x27" ++ text ++ "\x27")]
  | param p => [.hole p]
  | binary op left right =>
    left.fragments column ++ .word (" " ++ op.sign ++ " ") :: right.fragments column
  | isIn e items => e.fragments column ++ .word " IN (" :: itemFragments column items ++ [.word ")"]
  | isNotNull e => e.fragments column ++ [.word " IS NOT NULL"]
  | not e => .word "NOT " :: e.fragments column
  | coalesce e otherwise =>
    .word "COALESCE(" :: e.fragments column ++ .word ", " :: otherwise.fragments column ++ [.word ")"]
  | .exists key condition =>
    .word "EXISTS (SELECT 1 FROM " :: .word (call "json_each" column key) :: .word " AS e WHERE "
      :: condition.fragments column ++ [.word ")"]
  | cases branches otherwise =>
    .word "CASE" :: branchFragments column branches ++ .word " ELSE " :: otherwise.fragments column
      ++ [.word " END"]
  | paren e => .word "(" :: e.fragments column ++ [.word ")"]

/-- The texts of expressions with commas between them. -/
def itemFragments (column : String) : List Expr → List Fragment
  | [] => []
  | [e] => e.fragments column
  | e :: rest => e.fragments column ++ .word ", " :: itemFragments column rest

/-- The texts of conditions with their results. -/
def branchFragments (column : String) : List (Expr × Expr) → List Fragment
  | [] => []
  | (condition, result) :: rest =>
    .word " WHEN " :: condition.fragments column ++ .word " THEN " :: result.fragments column
      ++ branchFragments column rest

end

end Expr

/-- A piece of text with a question mark for a hole. -/
def Fragment.text : Fragment → String
  | word text => text
  | hole _ => "?"

/-- The operand of a hole. -/
def Fragment.param? : Fragment → Option Param
  | word _ => none
  | hole p => some p

namespace Expr

/-- The text of an expression with question marks for its operands. -/
def clause (column : String) (e : Expr) : String :=
  String.join ((e.fragments column).map Fragment.text)

/-- The operands of an expression in the order of their question marks. -/
def params (column : String) (e : Expr) : List Param := (e.fragments column).filterMap Fragment.param?

end Expr

/-! ### Text for people -/

/-- An operand as it would be written: text in single quotes, which are doubled inside. -/
def Param.literal : Param → String
  | text s =>
    String.ofList ('\x27' :: (s.toList.flatMap fun c => if c = '\x27' then [c, c] else [c]) ++ ['\x27'])
  | integer i => toString i
  | real x => x.plain

/-- Replaces question marks by operands as long as there are any. -/
def fillIn : List Char → List Param → List Char
  | [], _ => []
  | c :: rest, [] => c :: rest
  | c :: rest, p :: params =>
    if c = '?' then p.literal.toList ++ fillIn rest params else c :: fillIn rest (p :: params)

/-- The text of an expression with its operands filled in. -/
def Expr.inlined (column : String) (e : Expr) : String :=
  String.ofList (fillIn (e.clause column).toList (e.params column))

end CardQuery.Sql
