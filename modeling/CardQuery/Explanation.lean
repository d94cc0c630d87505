/-
**Explaining tokens.**

A token is explained by a phrase such as `mana value is less than 3`, in the words of a catalog.
Composite values are explained part by part.  A command may have an explanation of its own, and one
that searches everywhere has none.

Main definitions:

* `operatorKey` — the message for an operator;
* `Binding.parameter`, `Binding.phrase` — the name of a field, and the phrase of a comparison;
* `joinAll` — an enumeration;
* `Binding.explained`, `Binding.explainedPart` — what an explanation of a command's own can refer to;
* `Argument.standardExplanation`, `Argument.explain` — the explanation of a token without and with
  what its command has to say.
-/

import CardQuery.Meaning

set_option autoImplicit false

namespace CardQuery

/-- The message for an operator, without regard to negation. -/
def plainOperatorKey (kind : CommandKind) (op : Operator) (isRegex : Bool) : String :=
  match op with
  | .equals => if isRegex then "match-exactly" else "is"
  | .has => if isRegex then "match" else if kind.comparesByEquality then "is" else "include"
  | .less => "less-than"
  | .atMost => "less-than-or-equal"
  | .greater => "greater-than"
  | .atLeast => "greater-than-or-equal"

/-- The message for an operator. -/
def operatorKey (kind : CommandKind) (op : Operator) (negated isRegex : Bool) : String :=
  let base := plainOperatorKey kind op isRegex
  if !negated then base else if base = "is" then "is-not" else "not-" ++ base

/-- The name of a field with that of the modifier. -/
def Binding.parameter (b : Binding) (c : Catalog) : String :=
  let id := b.command.id
  let name := c.lookupOr ("field." ++ id) [] id
  match b.modifier with
  | some m => name ++ " (" ++ c.lookupOr ("modifier." ++ m.name) [] m.name ++ ")"
  | none => name

/-- The phrase of a comparison; without a message, the operator itself stands between. -/
def Binding.phrase (b : Binding) (c : Catalog) (parameter value : String) : String :=
  let key := operatorKey b.command.kind b.operator b.isNegated b.operand.isRegex
  c.lookupOr ("operator." ++ key) [("parameter", parameter), ("value", value)]
    (parameter ++ " " ++ (if b.isNegated then "!" else "") ++ b.operator.sign ++ " " ++ value)

/-- The value as it is shown: that of a set by its full name. -/
def Binding.shownValue (b : Binding) : String :=
  match b.operand, b.command.kind with
  | .regex source, _ => (Operand.regex source).shown
  | .text s, .set values => values.canonical (Unicode.trimmed s)
  | .text s, _ => s

/-- The explanation of an order of the results. -/
def Binding.orderExplanation (b : Binding) (c : Catalog) : String :=
  let (name, descending) := splitDirection (Unicode.trimmed b.operand.content)
  let parameter := c.lookupOr ("field." ++ Unicode.loweredText name) [] name
  let direction :=
    if descending then c.lookupOr "order.descending" [] "descending"
    else c.lookupOr "order.ascending" [] "ascending"
  c.lookupOr "order.sorted-by" [("parameter", parameter), ("direction", direction)]
    ("sorted by " ++ parameter ++ ", " ++ direction)

/-- The explanation of a bound value; a composite value has none without its parts. -/
def Binding.standardExplanation (b : Binding) (c : Catalog) : Option String :=
  match b.command.kind with
  | .unrestricted _ => none
  | .composite _ => none
  | .order _ => some (b.orderExplanation c)
  | _ => some (b.phrase c (b.parameter c) b.shownValue)

/-- A bound value as an explanation sees it. -/
def Binding.explained (b : Binding) (span : Span) (standard : Option String) : ExplainedValue where
  command := b.command.profile
  modifier := b.modifier
  operand := b.operand
  operator := b.operator
  qualifiers := b.qualifiers
  span
  standard

/-- The explanation that a command gives of its own, or else the standard one. -/
def Command.explain (command : Command) (c : Catalog) (e : Explained) : Option String :=
  match command.explainer with
  | some explainer => explainer c e
  | none => e.standard

/-- The explanation of a part of a value in the token at a span. -/
def Binding.explain (b : Binding) (c : Catalog) (span : Span) : Option String :=
  b.command.explain c { b.explained span (b.standardExplanation c) with fields := none, parts := [] }

/-- A part of a value as an explanation of the whole sees it. -/
def Binding.explainedPart (b : Binding) (c : Catalog) (span : Span) : ExplainedPart :=
  { b.explained span (b.standardExplanation c) with explanation := b.explain c span }

/-- An enumeration: the items with commas between them, the last after a conjunction. -/
def joinAll (c : Catalog) (items : List String) : Option String :=
  match items.reverse with
  | [] => none
  | [item] => some item
  | last :: others =>
    some (String.intercalate ", " others.reverse ++ " " ++ c.lookupOr "conjunction.and" [] "and"
      ++ " " ++ last)

/-- The explanation of a token without regard to what its command has to say. -/
def Argument.standardExplanation (a : Argument) (c : Catalog) (span : Span) : Option String :=
  match a.command.kind with
  | .composite _ =>
    (joinAll c (a.parts.filterMap fun p => p.explain c span)).map fun joined =>
      if a.isNegated then
        c.lookupOr "operator.not-all" [("value", joined)] ("not (" ++ joined ++ ")")
      else joined
  | _ => a.toBinding.standardExplanation c

/-- The explanation of the token at a span. -/
def Argument.explain (a : Argument) (c : Catalog) (span : Span) : Option String :=
  a.command.explain c
    { a.toBinding.explained span (a.standardExplanation c span) with
      fields := a.fields
      parts := a.parts.map fun p => p.explainedPart c span }

end CardQuery
