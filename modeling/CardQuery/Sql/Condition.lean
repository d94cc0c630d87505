/-
**Predicates in SQL.**

Texts are matched by regular expressions that ignore case, since the comparisons of SQL know the
case of A to Z only.  A comparison with a value that is missing is null, which counts as false
before it is negated.

Main definitions:

* `Predicate.toSql` — the condition that a predicate is;
* `SortKey.toSql` — the order that a sort key is.
-/

import CardQuery.Predicate.Basic
import CardQuery.Regex.Literal
import CardQuery.Sql.Expression

set_option autoImplicit false

namespace CardQuery

open Sql (Expr Param)

/-- The operator of a comparison. -/
def Comparison.toSql : Comparison → Sql.BinaryOp
  | equal => .equal
  | less => .less
  | atMost => .atMost
  | greater => .greater
  | atLeast => .atLeast

/-- The operand of a comparison. -/
def Scalar.toSql : Scalar → Param
  | integer i => .integer i
  | real x => .real x
  | text s => .text s

namespace Sql

/-- The regular expression that ignores case. -/
def ignoringCase (source : String) : String := "(?i)" ++ source

/-- The regular expression that describes exactly the text, up to case. -/
def exactText (value : String) : String := "(?i)^" ++ Regex.escape value ++ "$"

/-- A mask as a signed number of 64 bits. -/
def maskParam (mask : Nat) : Param := .integer (BitVec.ofNat 64 mask).toInt

/-- The value matches a regular expression. -/
def matching (e : Expr) (source : String) : Expr := .binary .regexp e (.param (.text source))

/-- What is always true. -/
def always : Expr := .binary .equal (.number 1) (.number 1)

/-- What is never true. -/
def never : Expr := .binary .equal (.number 1) (.number 0)

/-- The bits of a mask in the number at a key. -/
def maskedBits (key : String) (mask : Nat) : Expr :=
  .paren (.binary .bitAnd (.extract key) (.param (maskParam mask)))

/-- The number of elements at a key; a single value counts as one. -/
def elementCount (key : String) : Expr :=
  .paren <|
    .cases
      [ (.binary .equal (.typeOf key) (.label "array"), .lengthOf key),
        (.isIn (.typeOf key) [.label "text", .label "integer", .label "real"], .number 1)]
      (.number 0)

/-- No element at a key differs from the text. -/
def noOtherThan (key value : String) : Expr :=
  .not (.exists key (.not (.coalesce (matching .element (exactText value)) (.number 0))))

/-- Conditions joined by an operator from the left, in parentheses when there are at least two. -/
def joined (op : BinaryOp) (empty : Expr) : List Expr → Expr
  | [] => empty
  | [e] => e
  | e :: rest => .paren (rest.foldl (.binary op) e)

end Sql

open Sql

namespace Predicate

mutual

/-- The condition that a predicate is. -/
def toSql : Predicate → Expr
  | everything => always
  | contains key needle => matching (.extract key) (ignoringCase (Regex.escape needle))
  | regex key pattern => matching (.extract key) (ignoringCase pattern)
  | textEquals key value => matching (.extract key) (exactText value)
  | compare key comparison value => .binary comparison.toSql (.extract key) (.param value.toSql)
  | inList key values =>
    if values.isEmpty then never else .isIn (.extract key) (values.map fun v => .param v.toSql)
  | present key => .isNotNull (.extract key)
  | hasElement key value => .exists key (matching .element (exactText value))
  | soleElement key value distinct =>
    .paren <|
      .binary .and
        (if distinct then .binary .greater (elementCount key) (.number 0)
          else .binary .equal (elementCount key) (.number 1))
        (noOtherThan key value)
  | bitsAllSet key mask => .binary .equal (maskedBits key mask) (.param (maskParam mask))
  | bitsAllClear key mask => .binary .equal (maskedBits key mask) (.number 0)
  | not p => .not (.coalesce (.paren p.toSql) (.number 0))
  | allOf ps => joined .and always (toSqlList ps)
  | anyOf ps => joined .or never (toSqlList ps)

/-- The conditions that the predicates of a list are. -/
def toSqlList : List Predicate → List Expr
  | [] => []
  | p :: ps => p.toSql :: toSqlList ps

end

end Predicate

/-- The order that a sort key is. -/
def SortKey.toSql (s : SortKey) (column : String) : String :=
  "ORDER BY " ++ call "json_extract" column s.key ++ (if s.descending then " DESC" else " ASC")

end CardQuery
