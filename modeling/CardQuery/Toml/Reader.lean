/-
**Reading settings documents.**

A document is a sequence of lines: assignments, headers of tables and of lists of tables, comments
and blank lines.

Main definitions:

* `Toml.scanValue` — a value;
* `Toml.readLine` — one line, and its effect on the document read so far;
* `Toml.read?` — the table that a text holds.
-/

import CardQuery.Toml.Draft
import CardQuery.Toml.Number

set_option autoImplicit false

namespace CardQuery.Toml

/-- A number or a point in time. -/
def scanNumeral (s : List Char) : Option (Value × List Char) :=
  match scanDateTime s with
  | some (t, rest) => some (.dateTime t, rest)
  | none =>
    match scanReal s with
    | some r => some r
    | none => scanInteger s

/-- A value that is written as a word. -/
def scanWord : List Char → Option (Value × List Char)
  | 't' :: 'r' :: 'u' :: 'e' :: rest => some (.bool true, rest)
  | 'f' :: 'a' :: 'l' :: 's' :: 'e' :: rest => some (.bool false, rest)
  | 'i' :: 'n' :: 'f' :: rest => some (.real (.infinite false), rest)
  | 'n' :: 'a' :: 'n' :: rest => some (.real .notANumber, rest)
  | _ => none

mutual

/-- The value at the head of a text, nested less than `depth` deep. -/
def scanValue : Nat → Nat → List Char → Option (Value × List Char)
  | 0, _, _ => none
  | fuel + 1, depth, s =>
    match s with
    | [] => none
    | c :: rest =>
      if c = '"' ∨ c = '\x27' then (scanText s).map fun r => (.text r.1, r.2)
      else if c = '[' then if depth ≤ 1 then none else scanItems fuel (depth - 1) [] rest
      else if c = '\x7b' then
        if depth ≤ 1 then none
        else
          match skipSpace rest with
          | '\x7d' :: rest => some (.table [], rest)
          | rest => scanFields fuel (depth - 1) .empty rest
      else if c = '+' ∨ c = '-' ∨ c.isDigit then scanNumeral s
      else scanWord s

/-- The items of a list up to its end; `items` are those before, in reverse. -/
def scanItems : Nat → Nat → List Value → List Char → Option (Value × List Char)
  | 0, _, _, _ => none
  | fuel + 1, depth, items, s =>
    match skipLines (s.length + 1) s with
    | ']' :: rest => some (.list items.reverse, rest)
    | s =>
      match scanValue fuel depth s with
      | none => none
      | some (v, rest) =>
        match skipLines (rest.length + 1) rest with
        | ',' :: rest => scanItems fuel depth (v :: items) rest
        | ']' :: rest => some (.list (v :: items).reverse, rest)
        | _ => none

/-- The assignments of a table in braces up to its end. -/
def scanFields : Nat → Nat → Draft → List Char → Option (Value × List Char)
  | 0, _, _, _ => none
  | fuel + 1, depth, table, s =>
    match scanKey s with
    | some (key, '=' :: rest) =>
      match scanValue fuel depth (skipSpace rest) with
      | none => none
      | some (v, rest) =>
        match table.assign key v with
        | none => none
        | some table =>
          match skipSpace rest with
          | ',' :: rest => scanFields fuel depth table rest
          | '\x7d' :: rest => some (.table table.finish, rest)
          | _ => none
    | _ => none

end

/-- The document read so far: the whole table, and the path of the table that assignments go to. -/
structure Progress where
  root : Draft
  current : List String

/-- The text after a character, which is a part of the document. -/
def expect (c : Char) : List Char → Option (List Char)
  | d :: rest => if c = d then some rest else none
  | [] => none

/-- Reads one line, which begins with no space. -/
def readLine (p : Progress) (s : List Char) : Option (Progress × List Char) :=
  match s with
  | '[' :: '[' :: rest => do
    let (key, rest) ← scanKey rest
    let rest ← expect ']' rest
    let rest ← expect ']' rest
    let rest ← finishLine rest
    let root ← p.root.openItem key
    return (⟨root, key⟩, rest)
  | '[' :: rest => do
    let (key, rest) ← scanKey rest
    let rest ← expect ']' rest
    let rest ← finishLine rest
    let root ← p.root.openTable key
    return (⟨root, key⟩, rest)
  | s => do
    let (key, rest) ← scanKey s
    let rest ← expect '=' rest
    let (v, rest) ← scanValue (rest.length + 1) depthLimit (skipSpace rest)
    let rest ← finishLine rest
    let root ← p.root.changeAt false (Draft.assign key v) p.current
    return (⟨root, p.current⟩, rest)

/-- Reads lines to the end of the text. -/
def readLines : Nat → Progress → List Char → Option Draft
  | 0, _, _ => none
  | fuel + 1, p, s =>
    match skipLines (s.length + 1) s with
    | [] => some p.root
    | s =>
      match readLine p s with
      | some (p, rest) => readLines fuel p rest
      | none => none

/-- The text after the mark that may open it. -/
def afterMark : List Char → List Char
  | '\ufeff' :: rest => rest
  | s => s

/-- The table that a text holds. -/
def read? (text : String) : Option Table :=
  let s := afterMark text.toList
  (readLines (s.length + 1) ⟨.empty, []⟩ s).map Draft.finish

end CardQuery.Toml
