/-
**Tokens of a query.**

A query is a sequence of tokens between white space.  A token compares a field with a value, or
gives a value alone; exclamation marks before it negate it, and a field may be narrowed by a
modifier.

Main definitions:

* `Operator`, `Operator.sign` — the six ways of comparing and their signs;
* `Qualifier` — marks before a token;
* `Operand` — a value: literal text, or the source of a regular expression;
* `Token` — a token;
* `Span` — the place of a token in its query.
-/

set_option autoImplicit false

namespace CardQuery

/-- A way of comparing a field with a value.  What `has` and `equals` mean depends on the field. -/
inductive Operator where
  | has
  | equals
  | less
  | atMost
  | greater
  | atLeast
deriving DecidableEq, Repr, Inhabited

namespace Operator

/-- All operators in their usual order. -/
def all : List Operator := [has, equals, less, atMost, greater, atLeast]

/-- The sign that stands for an operator. -/
def sign : Operator → String
  | has => ":"
  | equals => "="
  | less => "<"
  | atMost => "<="
  | greater => ">"
  | atLeast => ">="

/-- The operator with a sign. -/
def ofSign? (text : String) : Option Operator := all.find? fun op => op.sign == text

/-- Does the operator ask for an order? -/
def isOrdering : Operator → Bool
  | has => false
  | equals => false
  | less => true
  | atMost => true
  | greater => true
  | atLeast => true

theorem mem_all (op : Operator) : op ∈ all := by cases op <;> decide

theorem ofSign?_sign (op : Operator) : ofSign? op.sign = some op := by cases op <;> decide

end Operator

/-- A mark before a token. -/
inductive Qualifier where
  | negation
deriving DecidableEq, Repr, Inhabited

namespace Qualifier

/-- The sign that stands for a qualifier. -/
def sign : Qualifier → String
  | negation => "!"

/-- The qualifier with a sign. -/
def ofSign? (text : String) : Option Qualifier := if text = "!" then some negation else none

end Qualifier

/-- The value of a token. -/
inductive Operand where
  | text (content : String)
  | regex (source : String)
deriving DecidableEq, Repr, Inhabited

namespace Operand

/-- The text of a literal, or the source of a regular expression. -/
def content : Operand → String
  | text s => s
  | regex s => s

/-- Is the value a regular expression? -/
def isRegex : Operand → Bool
  | text _ => false
  | regex _ => true

/-- The value as it is shown: a regular expression between slashes. -/
def shown : Operand → String
  | text s => s
  | regex s => "/" ++ s ++ "/"

end Operand

/-- A token.  Without a field it addresses the field that the model reserves for such tokens; the
operator is absent exactly when the field is. -/
structure Token where
  qualifiers : List Qualifier
  field : Option String
  modifier : Option String
  operator : Option Operator
  operand : Operand
deriving DecidableEq, Repr, Inhabited

namespace Token

/-- Has the token no field? -/
def isRaw (t : Token) : Bool := t.field.isNone

/-- Is the token negated?  Further exclamation marks change nothing. -/
def isNegated (t : Token) : Bool := t.qualifiers.contains .negation

end Token

/-- Places in a text, counted in characters; the end is not included. -/
structure Span where
  start : Nat
  stop : Nat
deriving DecidableEq, Repr, Inhabited

namespace Span

/-- The characters of a text at a span. -/
def slice (span : Span) (text : List Char) : List Char :=
  (text.drop span.start).take (span.stop - span.start)

/-- The text at a span of a query. -/
def sliceText (span : Span) (text : String) : String := String.ofList (span.slice text.toList)

end Span

end CardQuery
