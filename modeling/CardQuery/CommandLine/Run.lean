/-
**Doing what is asked.**

The program works on any disk and with any models.  Settings are read first, then the store is
opened, then messages are read; the first of these that fails is reported.

Main definitions:

* `Outcome`, `Failure` — what the program prints and how it ends, and why it fails;
* `Request.run` — doing what is asked;
* `run` — the outcome of arguments.
-/

import CardQuery.CommandLine.Listing
import CardQuery.CommandLine.Request
import CardQuery.Configuration

set_option autoImplicit false

namespace CardQuery.CommandLine

/-- Why the program fails: it tells a message, or it gives up. -/
inductive Failure where
  | told (message : String)
  | aborted
deriving DecidableEq, Repr, Inhabited

/-- What the program prints, or why it fails. -/
inductive Outcome where
  | done (lines : List String)
  | failed (failure : Failure)
  | usage
deriving DecidableEq, Repr, Inhabited

/-- The number that a program ends with; one that gives up has none. -/
def Outcome.exitCode? : Outcome → Option Nat
  | done _ => some 0
  | failed (.told _) => some 1
  | failed .aborted => none
  | usage => some 2

/-- How the program is used. -/
def helpLines : List String := [
  "Search trading card collections with a free-text query language",
  "",
  "Usage: tcgs [OPTIONS] <COMMAND>",
  "",
  "Commands:",
  "  search   Run a query against the store",
  "  explain  Explain a single command",
  "  compile  Print the store filters a query compiles to",
  "  models   List models, or the commands of one model",
  "",
  "Options:",
  "  -c, --config <CONFIG>  Configuration file (TOML)",
  "      --cards <CARDS>    JSON file of cards per model, overriding the configured store",
  "  -v, --verbose          Accepted; there is nothing more to tell",
  "  -h, --help             Print help",
  "  -V, --version          Print version"]

/-- The name of the program and its version. -/
def versionLine : String := "tcgs 0.1.0"

variable {m : Type → Type} [Monad m]

/-- An action whose errors are told by their outermost cause. -/
def told {α : Type} (action : m (Except StoreError α)) : ExceptT Failure m α :=
  ExceptT.mk do return (← action).mapError fun e => .told e.outermost

/-- How the program fails when a search does: with its failure in full, unless it gives up. -/
def Failure.ofSearch : SearchFailure → Failure
  | .aborted => .aborted
  | failure => .told failure.message

/-- A search whose failures end the program. -/
def answered {α : Type} (result : Except SearchFailure α) : ExceptT Failure m α :=
  ExceptT.mk (pure (result.mapError Failure.ofSearch))

namespace Request

/-- The settings to use. -/
def settings (r : Request) (disk : Disk m) : ExceptT Failure m Configuration :=
  match r.configuration with
  | some path => told (Configuration.load disk path)
  | none => return .standard

/-- The store to use. -/
def store (r : Request) (c : Configuration) (disk : Disk m) : ExceptT Failure m Store :=
  match r.cards with
  | some path => do return (← told (Configuration.loadCards disk path)).store
  | none =>
    told do return (← c.openStore disk).mapError fun e => e.within "Failed to open card store"

/-- The engine to use. -/
def engine (registry : Registry) (c : Configuration) (disk : Disk m) :
    ExceptT Failure m Engine := do
  return ⟨registry, ← told (c.catalog disk), c.search⟩

/-- The list of the models, or of the commands of one. -/
def listModels (registry : Registry) : Option String → ExceptT Failure m (List String)
  | none => return registry.ids
  | some id =>
    match registry.get? id with
    | some model => return model.commands.map fun c => c.listing model
    | none => throw (.told ("Unknown model " ++ id))

/-- Does what is asked, and tells what to print. -/
def run (registry : Registry) (disk : Disk m) (r : Request) :
    ExceptT Failure m (List String) := do
  let c ← r.settings disk
  match r.action with
  | .search model query options asDocument =>
    let store ← r.store c disk
    let e ← engine registry c disk
    let response ← answered (e.search store model query options)
    return if asDocument then [response.toJson.indented] else response.listing
  | .explain model query =>
    let e ← engine registry c disk
    match ← answered (e.explain model query) with
    | some explanation => return [explanation]
    | none => return ["(no explanation for " ++ query ++ ")"]
  | .compile model query =>
    let e ← engine registry c disk
    return (← answered (e.plan model query)).listing c.dataColumn
  | .models model => listModels registry model

end Request

/-- The outcome of arguments. -/
def run (registry : Registry) (disk : Disk m) (arguments : List String) : m Outcome := do
  match Request.read arguments with
  | .error .usage => return .usage
  | .error .help => return .done helpLines
  | .error .version => return .done [versionLine]
  | .ok request =>
    match ← (request.run registry disk).run with
    | .ok lines => return .done lines
    | .error failure => return .failed failure

end CardQuery.CommandLine
