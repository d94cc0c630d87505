/-
**Tokens bound to commands.**

A token is bound to the command that its field names, and checked against what the command allows.
The value of a composite command is split, and every part is bound to the command that its
placeholder names, with the operator of the whole; a part that only compares for equality takes `=`
for `:`.

Main definitions:

* `Binding` — a value that is compared by a command;
* `Argument` — a bound token with the parts of its value;
* `Model.resolve` — the argument that a token is, or why it is none.
-/

import CardQuery.Model
import CardQuery.Regex.Reader

set_option autoImplicit false

namespace CardQuery

/-- A value that is compared by a command. -/
structure Binding where
  command : Command
  modifier : Option Modifier
  operand : Operand
  operator : Operator
  qualifiers : List Qualifier
deriving Inhabited

namespace Binding

/-- Is the comparison negated? -/
def isNegated (b : Binding) : Bool := b.qualifiers.contains .negation

/-- The key that is read: that of the modifier if there is one. -/
def key (b : Binding) : String :=
  match b.modifier with
  | some m => m.key
  | none => b.command.key

end Binding

/-- A bound token.  A composite value has the texts of its parts, and each of them bound to its own
command. -/
structure Argument extends Binding where
  fields : Option (KeyedList String)
  parts : List Binding
deriving Inhabited

/-! ### Checks -/

/-- The modifier of a token, which its command has to know. -/
def Command.checkModifier (c : Command) (t : Token) : Except SearchError (Option Modifier) :=
  match t.modifier with
  | none => .ok none
  | some word =>
    match c.modifier? word with
    | some m => .ok (some m)
    | none => .error (.invalid c.id t.operand.content (.unknownModifier word))

/-- The operator of a token, which its command has to support. -/
def Command.checkOperator (c : Command) (t : Token) : Except SearchError Operator :=
  let operator := t.operator.getD .has
  if c.supports operator then .ok operator
  else .error (.operatorUnsupported c.id operator.sign)

/-- A regular expression has to be allowed and well formed. -/
def Command.checkOperand (c : Command) : Operand → Except SearchError Unit
  | .text _ => .ok ()
  | .regex source =>
    if !c.allowRegex then .error (.regexDisabled c.id source)
    else if Regex.isValid source then .ok ()
    else .error (.invalid c.id source .malformedRegex)

/-- Every mark has to be allowed with the operator. -/
def Command.checkQualifiers (c : Command) (t : Token) (operator : Operator) :
    Except SearchError Unit :=
  match t.qualifiers.find? fun q => !c.allows q operator with
  | some q => .error (.invalid c.id t.operand.content (.qualifierNotAllowed q operator))
  | none => .ok ()

/-! ### Parts -/

/-- The operator of a part: that of the whole, or `=` for `:` where only that is known. -/
def Command.partOperator? (c : Command) (operator : Operator) : Option Operator :=
  if c.supports operator then some operator
  else if operator = .has ∧ c.supports .equals then some .equals
  else none

/-- A part of the value of the command `whole`, bound to its own command. -/
def Model.bindPart (m : Model) (whole : Command) (operator : Operator) (part : String × String) :
    Except SearchError Binding :=
  match m.command? part.1 with
  | none => .error (.invalid whole.id part.2 (.unknownPart part.1))
  | some c =>
    match c.partOperator? operator with
    | none => .error (.operatorUnsupported part.1 operator.sign)
    | some operator =>
      .ok { command := c, modifier := none, operand := .text part.2, operator, qualifiers := [] }

/-- The parts of the value of a composite command. -/
def Model.bindParts (m : Model) (c : Command) (templates : Composite) (operator : Operator)
    (value : String) : Except SearchError (KeyedList String × List Binding) :=
  match templates.captures value with
  | none => .error (.invalid c.id value (.expectedTemplate (templates.templates.map (·.source))))
  | some fields => (fields.mapM (m.bindPart c operator)).map fun parts => (fields, parts)

/-! ### Resolution -/

/-- The command that a token addresses. -/
def Model.addressed (m : Model) (t : Token) : Except SearchError Command :=
  match t.field with
  | none => .ok m.raw
  | some field =>
    match m.get? field with
    | some c => .ok c
    | none => .error (.unknownCommand field)

/-- The argument that a token is, or the first reason why it is none. -/
def Model.resolve (m : Model) (t : Token) : Except SearchError Argument := do
  let command ← m.addressed t
  let modifier ← command.checkModifier t
  let operator ← command.checkOperator t
  command.checkOperand t.operand
  command.checkQualifiers t operator
  let binding : Binding :=
    { command, modifier, operand := t.operand, operator, qualifiers := t.qualifiers }
  match command.kind with
  | .composite templates =>
    let (fields, parts) ← m.bindParts command templates operator t.operand.content
    return { binding with fields := some fields, parts }
  | _ => return { binding with fields := none, parts := [] }

end CardQuery
