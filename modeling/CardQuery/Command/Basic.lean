/-
**Commands.**

A command is one field that can be searched: its names, the place of its value on a card, what may
be asked of it, and how its values are read.

Main definitions:

* `CommandKind` — how the values of a command are read;
* `Modifier` — another place that a command can be pointed to;
* `CommandProfile`, `Explained`, `Explainer` — an explanation of a command's own, and what it can refer to;
* `Command`, `Command.allows` — a command, and what may be asked of it.
-/

import CardQuery.Catalog.Basic
import CardQuery.Command.Alphabet
import CardQuery.Command.HalfNumber
import CardQuery.Command.Template
import CardQuery.Command.ValueSet

set_option autoImplicit false

namespace CardQuery

/-- How the values of a command are read. -/
inductive CommandKind where
  | text
  | number (allowReal : Bool)
  | set (values : ValueSet)
  | bitset (alphabet : Alphabet)
  | halfNumber (range : HalfRange)
  | composite (templates : Composite)
  | unrestricted (targets : List String)
  | order (keys : KeyedList String)
deriving DecidableEq, Repr, Inhabited

namespace CommandKind

/-- The name of a kind. -/
def name : CommandKind → String
  | text => "text"
  | number _ => "number"
  | set _ => "set"
  | bitset _ => "bitset"
  | halfNumber _ => "half-number"
  | composite _ => "pattern"
  | unrestricted _ => "unrestricted"
  | order _ => "order"

/-- Is the value of the kind made of parts? -/
def isComposite : CommandKind → Bool
  | composite _ => true
  | _ => false

/-- Is having a value the same as being equal to it? -/
def comparesByEquality : CommandKind → Bool
  | number _ => true
  | halfNumber _ => true
  | _ => false

end CommandKind

/-- Another place that a command can be pointed to, with a short form of its name. -/
structure Modifier where
  name : String
  short : String
  key : String
deriving DecidableEq, Repr, Inhabited

/-- Does a word name the modifier?  The case of A to Z does not count. -/
def Modifier.isNamed (m : Modifier) (word : String) : Bool :=
  Unicode.equalUpToAsciiCase m.name word || Unicode.equalUpToAsciiCase m.short word

/-- What is known of a command apart from an explanation of its own. -/
structure CommandProfile where
  id : String
  key : String
  aliases : List String
  operators : List Operator
  qualifiers : List Qualifier
  negatable : Option (List Operator)
  allowRegex : Bool
  modifiers : List Modifier
  kind : CommandKind
deriving DecidableEq, Repr, Inhabited

/-- What an explanation can refer to in a bound value, and the explanation that it would have otherwise. -/
structure ExplainedValue where
  command : CommandProfile
  modifier : Option Modifier
  operand : Operand
  operator : Operator
  qualifiers : List Qualifier
  span : Span
  standard : Option String
deriving DecidableEq, Repr, Inhabited

/-- A part of a value with its own explanation. -/
structure ExplainedPart extends ExplainedValue where
  explanation : Option String
deriving DecidableEq, Repr, Inhabited

/-- What an explanation can refer to: a bound token with the parts of its value. -/
structure Explained extends ExplainedValue where
  fields : Option (KeyedList String)
  parts : List ExplainedPart
deriving DecidableEq, Repr, Inhabited

/-- Is the token negated? -/
def ExplainedValue.isNegated (e : ExplainedValue) : Bool := e.qualifiers.contains .negation

/-- An explanation of a command's own; it may be silent. -/
abbrev Explainer := Catalog → Explained → Option String

/-- A field that can be searched. -/
structure Command where
  id : String
  key : String
  aliases : List String
  operators : List Operator
  qualifiers : List Qualifier
  /-- The operators that may be negated, if not all may. -/
  negatable : Option (List Operator)
  allowRegex : Bool
  modifiers : List Modifier
  kind : CommandKind
  explainer : Option Explainer
deriving Inhabited

namespace Command

/-- The command without its explanation. -/
def profile (c : Command) : CommandProfile where
  id := c.id
  key := c.key
  aliases := c.aliases
  operators := c.operators
  qualifiers := c.qualifiers
  negatable := c.negatable
  allowRegex := c.allowRegex
  modifiers := c.modifiers
  kind := c.kind

/-- The id and the aliases of a command. -/
def names (c : Command) : List String := c.id :: c.aliases

/-- The modifier that a word names. -/
def modifier? (c : Command) (word : String) : Option Modifier :=
  c.modifiers.find? fun m => m.isNamed word

/-- Does the command know the operator? -/
def supports (c : Command) (op : Operator) : Bool := c.operators.contains op

/-- May the qualifier stand before a token with the operator? -/
def allows (c : Command) (q : Qualifier) (op : Operator) : Bool :=
  c.qualifiers.contains q &&
    match c.negatable with
    | some operators => operators.contains op
    | none => true

end Command

end CardQuery
