/-
**What becomes of each piece of a query.**

A piece is read, bound and given a meaning, and may fail at each of these stages.  Its view shows it
as it was typed together with what is known about it.

Main definitions:

* `Stage` — the stages at which a piece may fail;
* `Treated`, `Model.treat` — how far a piece has come;
* `CommandView`, `Treated.view` — the piece as it is shown.
-/

import CardQuery.Explanation

set_option autoImplicit false

namespace CardQuery

/-- A stage at which a piece may fail. -/
inductive Stage where
  | parsing
  | resolving
  | compiling
deriving DecidableEq, Repr, Inhabited

namespace Stage

/-- The name of a stage. -/
def name : Stage → String
  | parsing => "parsing"
  | resolving => "resolving"
  | compiling => "compiling"

/-- The name of a stage as a title. -/
def title : Stage → String
  | parsing => "Parsing"
  | resolving => "Resolving"
  | compiling => "Compiling"

end Stage

/-- How far a piece has come: it is no token, it is bound to no command, or it is an argument that
may have a meaning. -/
inductive Treated where
  | malformed (span : Span) (error : SearchError)
  | unresolved (span : Span) (token : Token) (error : SearchError)
  | resolved (span : Span) (token : Token) (argument : Argument)
      (meaning : Except SearchError Meaning)

/-- How far a piece comes in a model. -/
def Model.treat (m : Model) (p : Piece) : Treated :=
  match p.content with
  | .error fault => .malformed p.span (.ofFault fault p.span)
  | .ok token =>
    match m.resolve token with
    | .error e => .unresolved p.span token e
    | .ok argument => .resolved p.span token argument argument.meaning

/-- A piece as it was typed, and what is known about it. -/
structure CommandView where
  text : String
  span : Span
  field : Option String
  modifier : Option String
  operator : Option Operator
  qualifiers : List Qualifier
  operand : Option Operand
  fields : Option (KeyedList String)
  explanation : Option String
  failedAt : Option Stage
deriving DecidableEq, Repr, Inhabited

namespace CommandView

/-- A piece of which nothing is known. -/
def bare (query : String) (span : Span) : CommandView where
  text := span.sliceText query
  span := span
  field := none
  modifier := none
  operator := none
  qualifiers := []
  operand := none
  fields := none
  explanation := none
  failedAt := none

/-- A token. -/
def ofToken (query : String) (span : Span) (t : Token) : CommandView :=
  { bare query span with
    modifier := t.modifier
    operator := t.operator
    qualifiers := t.qualifiers
    operand := some t.operand }

/-- A token that is bound to a command. -/
def ofArgument (query : String) (c : Catalog) (span : Span) (t : Token) (a : Argument) :
    CommandView :=
  { ofToken query span t with
    field := some a.command.id
    modifier := a.modifier.map (·.name)
    operator := some a.operator
    fields := a.fields
    explanation := a.explain c span }

/-- The view of a piece that failed. -/
def failed (v : CommandView) (stage : Stage) : CommandView := { v with failedAt := some stage }

end CommandView

end CardQuery
