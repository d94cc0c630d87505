/-
**Answers as documents.**

Main definitions:

* `SearchError.toJson`, `SearchError.ofJson?` — errors as documents and back;
* `CommandView.toJson` — a piece of a query, without the fields of which nothing is known;
* `SearchResponse.toJson` — the answer to a query.
-/

import CardQuery.Search.Engine

set_option autoImplicit false

namespace CardQuery

/-- A place as a document. -/
def Span.toJson (s : Span) : Json := .object [("start", .ofNat s.start), ("end", .ofNat s.stop)]

/-- A value as a document. -/
def Operand.toJson (o : Operand) : Json :=
  .object [("kind", .text (if o.isRegex then "regex" else "text")), ("source", .text o.content)]

/-- Marks as a document. -/
def qualifiersJson (qualifiers : List Qualifier) : Json :=
  .list (qualifiers.map fun q => .text q.sign)

namespace SearchError

/-- The error as a document: the kind and the operands. -/
def toJson (e : SearchError) : Json :=
  .object <| ("type", .text e.kind) ::
    match e with
    | malformed message span =>
      [("message", .text message), ("start", .ofNat span.start), ("end", .ofNat span.stop)]
    | unknownCommand name => [("value", .text name)]
    | invalidQuery field value reason =>
      [("field", .text field), ("value", .text value), ("reason", .text reason)]
    | regexDisabled field value => [("field", .text field), ("value", .text value)]
    | operatorUnsupported field operator => [("field", .text field), ("operator", .text operator)]

/-- The error of a kind with the given operands. -/
def ofRecord? (kind : String) (args : Json) : Option SearchError :=
  match kind with
  | "syntax-error" =>
    match Json.record? ["message", "start", "end"] [] args with
    | some [.text message, start, stop] => do
      return malformed message ⟨← start.asNat64?, ← stop.asNat64?⟩
    | _ => none
  | "unknown-command" =>
    match Json.record? ["value"] [] args with
    | some [.text name] => some (unknownCommand name)
    | _ => none
  | "invalid-query" =>
    match Json.record? ["field", "value", "reason"] [] args with
    | some [.text field, .text value, .text reason] => some (invalidQuery field value reason)
    | _ => none
  | "regex-disabled" =>
    match Json.record? ["field", "value"] [] args with
    | some [.text field, .text value] => some (regexDisabled field value)
    | _ => none
  | "operator-unsupported" =>
    match Json.record? ["field", "operator"] [] args with
    | some [.text field, .text operator] => some (operatorUnsupported field operator)
    | _ => none
  | _ => none

/-- The error that a document is. -/
def ofJson? (j : Json) : Option SearchError :=
  match j.variant? "type" with
  | some (kind, args) => ofRecord? kind args
  | none => none

end SearchError

/-- A piece of a query as a document; what is not known is left out. -/
def CommandView.toJson (v : CommandView) : Json :=
  .object <|
    [("text", .text v.text), ("span", v.span.toJson)]
      ++ Json.ifSome "field" .text v.field
      ++ Json.ifSome "modifier" .text v.modifier
      ++ Json.ifSome "operator" (fun op => .text op.sign) v.operator
      ++ (if v.qualifiers.isEmpty then [] else [("qualifiers", qualifiersJson v.qualifiers)])
      ++ Json.ifSome "value" Operand.toJson v.operand
      ++ Json.ifSome "patternFields" Json.ofTexts v.fields
      ++ Json.ifSome "explanation" .text v.explanation
      ++ Json.ifSome "failedAt" (fun stage => .text stage.name) v.failedAt

/-- The page of an answer as a document; searching takes no time that could be told. -/
def PageResult.toTimedJson (r : PageResult) : Json :=
  .object [("rows", .list r.rows), ("total", .ofNat r.total), ("elapsedMs", .ofNat 0)]

/-- The answer to a query as a document. -/
def SearchResponse.toJson (r : SearchResponse) : Json :=
  .object [
    ("text", .text r.plan.text),
    ("commands", .list (r.plan.commands.map CommandView.toJson)),
    ("errors", .list (r.plan.errors.map SearchError.toJson)),
    ("result", r.result.toTimedJson)]

end CardQuery
