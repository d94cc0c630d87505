/-
**Evaluating conditions.**

Conditions are true, false or unknown.  A regular expression asks for a text: about other values
nothing is known.  Conditions that are joined are evaluated from the left, and only as far as they
have to be.

Main definitions:

* `Sql.Row`, `Sql.EvalError` — what an expression is evaluated on, and why it can fail;
* `Sql.Expr.eval` — the value of an expression;
* `Sql.Expr.holds` — is the value true?
-/

import CardQuery.Regex.Matching
import CardQuery.Regex.Reader
import CardQuery.Sql.Path
import CardQuery.Sql.Value

set_option autoImplicit false

namespace CardQuery.Sql

/-- The card of a row, and the element that is looked at. -/
structure Row where
  document : Json
  element : Value
deriving Inhabited

/-- Why an expression has no value. -/
inductive EvalError where
  | malformedRegex (source : String)
  | malformedPath
deriving DecidableEq, Repr

/-- The part of the card at a key. -/
def Row.part (row : Row) (key : String) : Except EvalError (Option Json) :=
  match partAt key row.document with
  | .ok part => .ok part
  | .error .malformed => .error .malformedPath

/-- The name of the type of a value. -/
def typeName : Json → String
  | .null => "null"
  | .bool true => "true"
  | .bool false => "false"
  | .number (.integer _) => "integer"
  | .number (.double _) => "real"
  | .text _ => "text"
  | .list _ => "array"
  | .object _ => "object"

/-- The length of a list; other values have none. -/
def listLength : Json → Nat
  | .list items => items.length
  | _ => 0

/-- The elements of a value: those of a list or an object, or the value itself. -/
def elementsOf : Json → List Json
  | .list items => items
  | .object fields => fields.map (·.2)
  | j => [j]

/-- Does a value match a regular expression? -/
def matchRegex (value source : Value) : Except EvalError Value :=
  match source with
  | .text source =>
    match Regex.parse? false source with
    | none => .error (.malformedRegex source)
    | some p =>
      match value with
      | .text s => .ok (.ofBool (p.occursIn s.toList))
      | _ => .ok .null
  | _ => .ok .null

/-- Do two values stand in the order that an operator asks for? -/
def compareBy (holds : Ordering → Bool) (a b : Value) : Value :=
  .ofTruth ((a.compared b).map holds)

/-- The value of an operator that needs both operands. -/
def BinaryOp.apply (op : BinaryOp) (a b : Value) : Except EvalError Value :=
  match op with
  | regexp => matchRegex a b
  | equal => .ok (compareBy (· == .eq) a b)
  | less => .ok (compareBy (· == .lt) a b)
  | atMost => .ok (compareBy (· != .gt) a b)
  | greater => .ok (compareBy (· == .gt) a b)
  | atLeast => .ok (compareBy (· != .lt) a b)
  | bitAnd => .ok (a.bitAnd b)
  | and =>
    .ok <| .ofTruth <|
      match a.truth?, b.truth? with
      | some false, _ => some false
      | _, some false => some false
      | some true, some true => some true
      | _, _ => none
  | or =>
    .ok <| .ofTruth <|
      match a.truth?, b.truth? with
      | some true, _ => some true
      | _, some true => some true
      | some false, some false => some false
      | _, _ => none

/-- The value of the left operand that decides an operator. -/
def BinaryOp.decided? (op : BinaryOp) (a : Value) : Option Value :=
  match op, a.truth? with
  | and, some false => some (.ofBool false)
  | or, some true => some (.ofBool true)
  | _, _ => none

/-- Is the value one of a list?  This is unknown if it is null, or if it is not found beside a
null. -/
def isAmong (a : Value) (items : List Value) : Value :=
  let results := items.map fun b => a.compared b
  .ofTruth <|
    if results.contains (some .eq) then some true
    else if results.contains none then none
    else some false

/-- Does some item meet a condition?  Items are tried in order. -/
def someTrue (test : Value → Except EvalError Value) : List Json → Except EvalError Bool
  | [] => .ok false
  | j :: rest =>
    match test (.ofJson j) with
    | .error e => .error e
    | .ok v => if v.truth? = some true then .ok true else someTrue test rest

namespace Expr

mutual

/-- The value of an expression on a row. -/
def eval (row : Row) : Expr → Except EvalError Value
  | extract key => (row.part key).map fun part => (part.map Value.ofJson).getD .null
  | typeOf key => (row.part key).map fun part => (part.map fun j => .text (typeName j)).getD .null
  | lengthOf key =>
    (row.part key).map fun part => (part.map fun j => .integer (listLength j)).getD .null
  | element => .ok row.element
  | number n => .ok (.integer n)
  | label text => .ok (.text text)
  | param p => .ok (.ofParam p)
  | binary op left right =>
    match left.eval row with
    | .error e => .error e
    | .ok a =>
      match op.decided? a with
      | some v => .ok v
      | none =>
        match right.eval row with
        | .error e => .error e
        | .ok b => op.apply a b
  | isIn e items =>
    match e.eval row with
    | .error error => .error error
    | .ok a => (evalItems row items).map (isAmong a)
  | isNotNull e => (e.eval row).map fun v => .ofBool (v != .null)
  | not e => (e.eval row).map fun v => .ofTruth (v.truth?.map (! ·))
  | coalesce e otherwise =>
    match e.eval row with
    | .error error => .error error
    | .ok .null => otherwise.eval row
    | .ok v => .ok v
  | .exists key condition =>
    match row.part key with
    | .error e => .error e
    | .ok none => .ok (.ofBool false)
    | .ok (some j) =>
      (someTrue (fun v => condition.eval { row with element := v }) (elementsOf j)).map .ofBool
  | cases branches otherwise => evalBranches row (otherwise.eval row) branches
  | paren e => e.eval row

/-- The values of expressions. -/
def evalItems (row : Row) : List Expr → Except EvalError (List Value)
  | [] => .ok []
  | e :: rest =>
    match e.eval row with
    | .error error => .error error
    | .ok v => (evalItems row rest).map (v :: ·)

/-- The result of the first condition that is true. -/
def evalBranches (row : Row) (otherwise : Except EvalError Value) :
    List (Expr × Expr) → Except EvalError Value
  | [] => otherwise
  | (condition, result) :: rest =>
    match condition.eval row with
    | .error e => .error e
    | .ok v =>
      if v.truth? = some true then result.eval row else evalBranches row otherwise rest

end

/-- Is the condition true of a card? -/
def holds (card : Json) (e : Expr) : Except EvalError Bool :=
  (e.eval ⟨card, .null⟩).map fun v => v.truth? == some true

end Expr

end CardQuery.Sql
