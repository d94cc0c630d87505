/-
**Options and words.**

The arguments of a program are options and words.  An option has a name, which follows two hyphens,
and perhaps a letter, which follows one; letters may be written together.  The value of an option
follows an equals sign, or its letter, or is the next argument, which then is no option itself.
After a double hyphen there are only words.

Main definitions:

* `OptionForm`, `OptionRule` — the options that are known;
* `Interruption` — why reading ends early;
* `Level`, `Level.read` — the options and words that have been read, and reading them.
-/

import CardQuery.KeyedList
import CardQuery.Number.Reading

set_option autoImplicit false

namespace CardQuery.CommandLine

/-- What belongs to an option: nothing, a path, a count, or the end of all reading. -/
inductive OptionForm where
  | switch
  | path
  | count
  | help
  | version
deriving DecidableEq, Repr, Inhabited

/-- An option that is known. -/
structure OptionRule where
  name : String
  letter : Option Char
  form : OptionForm
deriving DecidableEq, Repr, Inhabited

/-- Why reading ends early. -/
inductive Interruption where
  | usage
  | help
  | version
deriving DecidableEq, Repr, Inhabited

/-- A count of 32 bits. -/
def readCount? (value : String) : Option Nat :=
  match readInt64? value.toList with
  | some i => if fitsNat32 i then some i.toNat else none
  | none => none

namespace OptionForm

/-- Does a value belong to the option? -/
def takesValue : OptionForm → Bool
  | path => true
  | count => true
  | _ => false

/-- May the value belong to the option? -/
def admits : OptionForm → String → Bool
  | path, value => !value.isEmpty
  | count, value => (readCount? value).isSome
  | _, _ => true

end OptionForm

/-- The options and the words that have been read. -/
structure Level where
  options : KeyedList String
  words : List String
deriving DecidableEq, Repr, Inhabited

/-- A level after an option, which may still await its value. -/
structure Step where
  level : Level
  awaiting : Option OptionRule
deriving DecidableEq, Repr, Inhabited

/-- Is the argument an option?  A lone hyphen is a word. -/
def isOption (argument : String) : Bool :=
  match argument.toList with
  | '-' :: _ :: _ => true
  | _ => false

namespace Level

/-- Nothing. -/
def empty : Level := ⟨[], []⟩

/-- Is the option given? -/
def has (l : Level) (name : String) : Bool := (l.options.find? name).isSome

/-- Notes the value of an option, which is given once at most. -/
def note (l : Level) (rule : OptionRule) (value : String) : Except Interruption Level :=
  if l.has rule.name || !rule.form.admits value then .error .usage
  else .ok { l with options := l.options.insert rule.name value }

/-- An option without value. -/
def enter (l : Level) (rule : OptionRule) : Except Interruption Level :=
  match rule.form with
  | .help => .error .help
  | .version => .error .version
  | _ => l.note rule ""

/-- An option with a name, and with its value if an equals sign follows. -/
def named (rules : List OptionRule) (l : Level) (s : List Char) : Except Interruption Step :=
  let name := String.ofList (s.takeWhile (· != '='))
  match rules.find? fun rule => rule.name == name with
  | none => .error .usage
  | some rule =>
    match s.dropWhile (· != '=') with
    | [] =>
      if rule.form.takesValue then .ok ⟨l, some rule⟩
      else (l.enter rule).map fun l => ⟨l, none⟩
    | _ :: value =>
      if rule.form.takesValue then (l.note rule (String.ofList value)).map fun l => ⟨l, none⟩
      else .error .usage

/-- Options with letters; the value of one is what follows, apart from an equals sign. -/
def lettered (rules : List OptionRule) : Level → List Char → Except Interruption Step
  | l, [] => .ok ⟨l, none⟩
  | l, c :: rest =>
    match rules.find? fun rule => rule.letter == some c with
    | none => .error .usage
    | some rule =>
      if rule.form.takesValue then
        match rest with
        | [] => .ok ⟨l, some rule⟩
        | '=' :: value => (l.note rule (String.ofList value)).map fun l => ⟨l, none⟩
        | value => (l.note rule (String.ofList value)).map fun l => ⟨l, none⟩
      else (l.enter rule).bind fun l => lettered rules l rest

/-- An argument that is an option. -/
def option (rules : List OptionRule) (l : Level) (argument : String) : Except Interruption Step :=
  match argument.toList with
  | '-' :: '-' :: s => l.named rules s
  | s => l.lettered rules (s.drop 1)

/-- Is there room for a further word? -/
def hasRoom (limit : Option Nat) (l : Level) : Bool :=
  match limit with
  | some most => l.words.length < most
  | none => true

/-- Reads options and words up to a double hyphen or the first word for which there is no room; the
rest is left. -/
def read (rules : List OptionRule) (limit : Option Nat) :
    Level → List String → Except Interruption (Level × List String)
  | l, [] => .ok (l, [])
  | l, argument :: rest =>
    if argument = "--" then .ok (l, argument :: rest)
    else if isOption argument then
      match l.option rules argument with
      | .error e => .error e
      | .ok ⟨l, none⟩ => read rules limit l rest
      | .ok ⟨l, some rule⟩ =>
        match rest with
        | [] => .error .usage
        | value :: rest =>
          if isOption value then .error .usage
          else
            match l.note rule value with
            | .error e => .error e
            | .ok l => read rules limit l rest
    else if l.hasRoom limit then read rules limit { l with words := l.words ++ [argument] } rest
    else .ok (l, argument :: rest)

/-- Reads all arguments; words for which there is no room are refused. -/
def readAll (rules : List OptionRule) (limit : Option Nat) (arguments : List String) :
    Except Interruption Level := do
  match ← empty.read rules limit arguments with
  | (l, []) => return l
  | (l, "--" :: words) =>
    let l : Level := { l with words := l.words ++ words }
    match limit with
    | some most => if l.words.length ≤ most then return l else throw .usage
    | none => return l
  | _ => throw .usage

end Level

end CardQuery.CommandLine
