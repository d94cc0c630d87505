/-
**Building commands.**

Each kind of command begins with the operators and marks that suit it, and is then adapted step by
step.  A step that does not belong to the kind changes nothing.  The finished command is checked:
it has an id, and every place it reads on a card is a plain dotted key.

Main definitions:

* `CommandDraft` — a command under construction, with one function for each kind to begin with and
  one for each step;
* `isPlainKey` — keys that may stand in the path of a store;
* `CommandDraft.build` — the finished command.
-/

import CardQuery.Command.Basic
import CardQuery.Json.Basic

set_option autoImplicit false

namespace CardQuery

/-- A command under construction. -/
structure CommandDraft where
  id : String
  key : Option String
  aliases : List String
  operators : List Operator
  qualifiers : List Qualifier
  negatable : Option (List Operator)
  allowRegex : Bool
  modifiers : List Modifier
  kind : CommandKind
  explainer : Option Explainer
  templateError : Option TemplateError
deriving Inhabited

namespace CommandDraft

/-! ### Beginning -/

/-- Operators of commands that only compare for equality. -/
def matching : List Operator := [.has, .equals]

/-- Operators of commands with numbers. -/
def ordering : List Operator := [.equals, .less, .atMost, .greater, .atLeast]

/-- A draft of some kind in which every operator may be negated. -/
def begin (id : String) (kind : CommandKind) (operators : List Operator) (allowRegex : Bool) :
    CommandDraft where
  id := id
  key := none
  aliases := []
  operators := operators
  qualifiers := [.negation]
  negatable := none
  allowRegex := allowRegex
  modifiers := []
  kind := kind
  explainer := none
  templateError := none

/-- Text that is searched or compared, also by regular expressions. -/
def text (id : String) : CommandDraft := begin id .text matching true

/-- Whole numbers; only equality may be negated. -/
def number (id : String) : CommandDraft :=
  { begin id (.number false) ordering false with negatable := some [.equals] }

/-- A list of values. -/
def set (id : String) : CommandDraft := begin id (.set .unlimited) matching false

/-- A set of letters. -/
def bitset (id letters : String) : CommandDraft :=
  begin id (.bitset (.ofText letters)) Operator.all false

/-- Whole and half numbers. -/
def halfNumber (id : String) : CommandDraft :=
  begin id (.halfNumber .standard) Operator.all false

/-- A value of parts that other commands read. -/
def composite (id : String) (templates : List String) : CommandDraft :=
  match Composite.read templates with
  | .ok c => begin id (.composite c) Operator.all false
  | .error e => { begin id .text Operator.all false with templateError := some e }

/-- Text that is searched in several places at once. -/
def unrestricted (id : String) (targets : List String) : CommandDraft :=
  begin id (.unrestricted targets) Operator.all true

/-- The order of the results. -/
def order (id : String) : CommandDraft :=
  { begin id (.order []) matching false with qualifiers := [] }

/-! ### Steps -/

/-- A further name. -/
def addAlias (d : CommandDraft) (name : String) : CommandDraft :=
  { d with aliases := d.aliases ++ [name] }

/-- Further names. -/
def addAliases (d : CommandDraft) (names : List String) : CommandDraft :=
  { d with aliases := d.aliases ++ names }

/-- The place of the value on a card, which is otherwise named like the command. -/
def withKey (d : CommandDraft) (key : String) : CommandDraft := { d with key := some key }

/-- A further modifier. -/
def addModifier (d : CommandDraft) (name short key : String) : CommandDraft :=
  { d with modifiers := d.modifiers ++ [⟨name, short, key⟩] }

/-- The operators of the command. -/
def withOperators (d : CommandDraft) (operators : List Operator) : CommandDraft :=
  { d with operators := operators }

/-- Whether regular expressions are allowed. -/
def withRegex (d : CommandDraft) (allow : Bool) : CommandDraft := { d with allowRegex := allow }

/-- An explanation of the command's own. -/
def explainedBy (d : CommandDraft) (e : Explainer) : CommandDraft := { d with explainer := some e }

/-- Numbers may have fractions. -/
def withReals (d : CommandDraft) : CommandDraft :=
  match d.kind with
  | .number _ => { d with kind := .number true }
  | _ => d

/-- Changes the options of a set. -/
def onSet (d : CommandDraft) (change : ValueSet → ValueSet) : CommandDraft :=
  match d.kind with
  | .set values => { d with kind := .set (change values) }
  | _ => d

/-- Further short forms of the values of a set. -/
def addShortForms (d : CommandDraft) (entries : List (String × String)) : CommandDraft :=
  d.onSet fun s =>
    { s with
      shortForms := s.shortForms.insertAll (entries.map fun e => (Unicode.loweredText e.1, e.2)) }

/-- Equal values of a set count apart. -/
def countingDuplicates (d : CommandDraft) : CommandDraft :=
  d.onSet fun s => { s with countDuplicates := true }

/-- The values that a set admits. -/
def withValues (d : CommandDraft) (values : List String) : CommandDraft :=
  d.onSet fun s => { s with values := some values }

/-- Further words for letters of a bitset. -/
def addWords (d : CommandDraft) (entries : List (String × String)) : CommandDraft :=
  match d.kind with
  | .bitset a =>
    { d with
      kind :=
        .bitset
          { a with
            words := a.words.insertAll (entries.map fun e => (Unicode.loweredText e.1, e.2)) } }
  | _ => d

/-- The bounds of whole and half numbers; there is no command with bounds that have no ladder. -/
def withBounds? (d : CommandDraft) (least most : Int) : Option CommandDraft :=
  match d.kind with
  | .halfNumber r =>
    (HalfRange.between? least most r.sentinels).map fun range => { d with kind := .halfNumber range }
  | _ => some d

/-- A further word that whole and half numbers admit. -/
def addSentinel (d : CommandDraft) (word : String) : CommandDraft :=
  match d.kind with
  | .halfNumber r => { d with kind := .halfNumber { r with sentinels := r.sentinels ++ [word] } }
  | _ => d

/-- A further name that results can be ordered by. -/
def addSortKey (d : CommandDraft) (name key : String) : CommandDraft :=
  match d.kind with
  | .order keys => { d with kind := .order (keys.insert (Unicode.loweredText name) key) }
  | _ => d

/-! ### Finishing -/

/-- Keys that may stand in the path of a store: names of plain letters, digits and underscores,
joined by dots. -/
def isPlainKey (key : String) : Bool :=
  (Json.splitDots key.toList).all fun part =>
    !part.isEmpty && part.all fun c => c.isAlphanum || c == '_'

/-- The keys that a kind reads beside the key of its command. -/
def keysOfKind : CommandKind → List String
  | .unrestricted targets => targets
  | .order keys => keys.values
  | _ => []

/-- The bits of a set must not be too many. -/
def checkWidth (id : String) : CommandKind → Except ModelError Unit
  | .bitset a =>
    if a.letters.length > Alphabet.mostLetters then
      .error (.bitsetTooWide id a.letters.length Alphabet.mostLetters)
    else .ok ()
  | _ => .ok ()

/-- The finished command; the first thing that is wrong with it is reported. -/
def build (d : CommandDraft) : Except ModelError Command := do
  let id := Unicode.trimmed d.id
  if id.isEmpty then throw .emptyId
  if let some e := d.templateError then throw (.invalidPattern id e.message)
  checkWidth id d.kind
  let key := d.key.getD id
  match (key :: d.modifiers.map (·.key) ++ keysOfKind d.kind).find? fun k => !isPlainKey k with
  | some bad => throw (.invalidKey bad)
  | none =>
    return {
      id, key
      aliases := d.aliases
      operators := d.operators
      qualifiers := d.qualifiers
      negatable := d.negatable
      allowRegex := d.allowRegex
      modifiers := d.modifiers
      kind := d.kind
      explainer := d.explainer }

end CommandDraft

end CardQuery
