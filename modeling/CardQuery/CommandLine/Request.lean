/-
**What the program is asked to do.**

The first word is what to do.  Options about files and talkativeness may stand before it or after
it, and after it counts more.

Main definitions:

* `Verb` — the things that can be done;
* `Action`, `Request` — one of them with its operands, and with the files to use;
* `Request.read` — what the arguments ask for.
-/

import CardQuery.CommandLine.Level
import CardQuery.Search.Settings

set_option autoImplicit false

namespace CardQuery.CommandLine

/-- The things that can be done. -/
inductive Verb where
  | search
  | explain
  | compile
  | models
deriving DecidableEq, Repr, Inhabited

/-- One thing to do, with its operands. -/
inductive Action where
  | search (model query : String) (options : SearchOptions) (asDocument : Bool)
  | explain (model query : String)
  | compile (model query : String)
  | models (model : Option String)
deriving DecidableEq, Repr, Inhabited

/-- What to do, and which files to use: settings, and cards in place of those of the settings. -/
structure Request where
  configuration : Option String
  cards : Option String
  action : Action
deriving DecidableEq, Repr, Inhabited

/-! ### Options -/

/-- Options that may stand everywhere. -/
def commonOptions : List OptionRule := [
  ⟨"config", some 'c', .path⟩, ⟨"cards", none, .path⟩, ⟨"verbose", some 'v', .switch⟩,
  ⟨"help", some 'h', .help⟩]

/-- Options before the first word. -/
def leadingOptions : List OptionRule := commonOptions ++ [⟨"version", some 'V', .version⟩]

namespace Verb

/-- All things that can be done. -/
def all : List Verb := [search, explain, compile, models]

/-- The word for a thing to do. -/
def name : Verb → String
  | search => "search"
  | explain => "explain"
  | compile => "compile"
  | models => "models"

/-- The thing to do that a word stands for. -/
def ofName? (word : String) : Option Verb := all.find? fun v => v.name == word

/-- Options after the word. -/
def options : Verb → List OptionRule
  | search =>
    commonOptions ++ [⟨"page", none, .count⟩, ⟨"page-size", none, .count⟩, ⟨"json", none, .switch⟩]
  | _ => commonOptions

/-- The most further words, if there is a limit. -/
def limit : Verb → Option Nat
  | search => none
  | explain => some 2
  | compile => none
  | models => some 1

/-- Words with spaces between them. -/
def joined (words : List String) : String := String.intercalate " " words

/-- The thing to do with the operands that are given. -/
def action? (v : Verb) (l : Level) : Option Action :=
  match v, l.words with
  | search, model :: word :: words =>
    some <| .search model (joined (word :: words))
      ⟨(l.options.find? "page").bind readCount?, (l.options.find? "page-size").bind readCount?⟩
      (l.has "json")
  | explain, [model, query] => some (.explain model query)
  | compile, model :: word :: words => some (.compile model (joined (word :: words)))
  | models, [] => some (.models none)
  | models, [model] => some (.models (some model))
  | _, _ => none

end Verb

/-! ### Reading -/

/-- Which kind of help is asked for: all of it, or that for one word. -/
def readHelp : List String → Interruption
  | [] => .help
  | [word] => if word = "help" ∨ (Verb.ofName? word).isSome then .help else .usage
  | _ => .usage

/-- What the arguments ask for. -/
def Request.read (arguments : List String) : Except Interruption Request := do
  let (leading, rest) ← Level.empty.read leadingOptions (some 0) arguments
  match rest with
  | [] => throw .usage
  | word :: rest =>
    if word = "help" then throw (readHelp rest)
    match Verb.ofName? word with
    | none => throw .usage
    | some verb =>
      let level ← Level.readAll verb.options verb.limit rest
      match verb.action? level with
      | none => throw .usage
      | some action =>
        return {
          configuration := level.options.find? "config" <|> leading.options.find? "config"
          cards := level.options.find? "cards" <|> leading.options.find? "cards"
          action }

end CardQuery.CommandLine
