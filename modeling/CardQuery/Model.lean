/-
**Models.**

A model is the set of commands of one game.  No two names of its commands are equal up to case, one
of the commands takes the tokens without a field, and the parts of composite commands are commands
of the model that are not composite themselves.  A registry holds models by their ids.

Main definitions:

* `Model`, `Model.get?`, `Model.command?` — a model, and its commands by name and by id;
* `ModelDraft`, `ModelDraft.add`, `ModelDraft.build` — building a model and checking it;
* `Registry`, `Registry.register` — models by id.
-/

import CardQuery.Command.Basic

set_option autoImplicit false

namespace CardQuery

open Unicode (loweredText)

/-- Is the text, in lower case, a name of the command? -/
def Command.hasLoweredName (c : Command) (lowered : String) : Bool :=
  c.names.any fun name => loweredText name == lowered

/-- The commands of one game, and the one that takes tokens without a field. -/
structure Model where
  id : String
  commands : List Command
  raw : Command
deriving Inhabited

namespace Model

/-- The command with a name, regardless of case. -/
def get? (m : Model) (name : String) : Option Command :=
  let lowered := loweredText name
  m.commands.find? fun c => c.hasLoweredName lowered

/-- The command with exactly the id. -/
def command? (m : Model) (id : String) : Option Command := m.commands.find? fun c => c.id == id

end Model

/-- A model under construction. -/
structure ModelDraft where
  id : String
  raw : Option String
  commands : List Command
deriving Inhabited

namespace ModelDraft

/-- A model without commands. -/
def begin (id : String) (raw : Option String) : ModelDraft := ⟨id, raw, []⟩

/-- The id of the command that has a name already; `incoming` are the names in lower case that the
new command `id` has shown before. -/
def owner? (d : ModelDraft) (id : String) (incoming : List String) (lowered : String) :
    Option String :=
  match d.commands.find? fun c => c.hasLoweredName lowered with
  | some c => some c.id
  | none => if incoming.contains lowered then some id else none

/-- Checks the names of a new command in order. -/
def checkNames (d : ModelDraft) (id : String) :
    List String → List String → Except ModelError Unit
  | _, [] => .ok ()
  | incoming, name :: rest =>
    let lowered := loweredText name
    match d.owner? id incoming lowered with
    | some existing => .error (.duplicateName d.id name existing)
    | none => d.checkNames id (incoming ++ [lowered]) rest

/-- Adds a command, all names of which are new. -/
def add (d : ModelDraft) (c : Command) : Except ModelError ModelDraft :=
  (d.checkNames c.id [] c.names).map fun _ => { d with commands := d.commands ++ [c] }

/-- Adds commands in order. -/
def addAll (d : ModelDraft) (commands : List Command) : Except ModelError ModelDraft :=
  commands.foldlM add d

/-- Is the name that of a command which can be a part of a value? -/
def hasPart (d : ModelDraft) (part : String) : Bool :=
  d.commands.any fun c => c.id == part && !c.kind.isComposite

/-- The first part of a command that no command of the model can be. -/
def unknownPart? (d : ModelDraft) (c : Command) : Option ModelError :=
  match c.kind with
  | .composite templates =>
    (templates.parts.find? fun part => !d.hasPart part).map fun part => .unknownPatternPart c.id part
  | _ => none

/-- The finished model; the first thing that is wrong with it is reported. -/
def build (d : ModelDraft) : Except ModelError Model :=
  match d.raw with
  | none => .error (.missingRawCommand "")
  | some id =>
    match d.commands.find? fun c => c.id == id with
    | none => .error (.missingRawCommand id)
    | some raw =>
      match d.commands.findSome? d.unknownPart? with
      | some e => .error e
      | none => .ok ⟨d.id, d.commands, raw⟩

end ModelDraft

/-- The model with the commands, added in order. -/
def Model.ofCommands (id raw : String) (commands : List Command) : Except ModelError Model := do
  let d ← (ModelDraft.begin id (some raw)).addAll commands
  d.build

/-- Models by id, in order of registration. -/
structure Registry where
  models : List Model
deriving Inhabited

namespace Registry

/-- No models. -/
def empty : Registry := ⟨[]⟩

/-- The model with exactly the id. -/
def get? (r : Registry) (id : String) : Option Model := r.models.find? fun m => m.id == id

/-- Adds a model with a new id. -/
def register (r : Registry) (m : Model) : Except ModelError Registry :=
  if (r.get? m.id).isSome then .error (.duplicateModel m.id) else .ok ⟨r.models ++ [m]⟩

/-- Inserts a text into a list in ascending order. -/
def insertSorted (id : String) : List String → List String
  | [] => [id]
  | other :: rest => if id < other then id :: other :: rest else other :: insertSorted id rest

/-- The ids of the models in ascending order. -/
def ids (r : Registry) : List String := (r.models.map (·.id)).foldr insertSorted []

end Registry

end CardQuery
