/-
**Paths into JSON text.**

A path names keys and places of lists from the outside in.  A key stands after a dot, bare or in
double quotes; a place stands in brackets and is counted from the front or, after a number sign,
from the back.

Main definitions:

* `Sql.literalText?` — the text that is written between single quotes;
* `Sql.follow` — the part of a document at a path, unless the path is malformed.
-/

import CardQuery.Json.Basic

set_option autoImplicit false

namespace CardQuery.Sql

/-- The text that is written between single quotes, where every quote inside is doubled. -/
def literalText? : List Char → Option (List Char)
  | [] => some []
  | ['\x27'] => none
  | '\x27' :: '\x27' :: rest => (literalText? rest).map ('\x27' :: ·)
  | c :: rest => if c = '\x27' then none else (literalText? rest).map (c :: ·)

/-- A key in double quotes and the path after it; a backslash keeps the next character. -/
def quotedKey? : List Char → Option (List Char × List Char)
  | [] => none
  | '"' :: rest => some ([], rest)
  | '\\' :: c :: rest => (quotedKey? rest).map fun r => ('\\' :: c :: r.1, r.2)
  | c :: rest => (quotedKey? rest).map fun r => (c :: r.1, r.2)

/-- A bare key and the path after it; it is not empty. -/
def bareKey? (s : List Char) : Option (List Char × List Char) :=
  let key := s.takeWhile fun c => c != '.' && c != '['
  if key.isEmpty then none else some (key, s.drop key.length)

/-- The key after a dot. -/
def pathKey? : List Char → Option (List Char × List Char)
  | '"' :: rest => quotedKey? rest
  | s => bareKey? s

/-- The value of decimal digits. -/
def digitsValue (digits : List Char) : Nat :=
  digits.foldl (fun n c => n * 10 + (c.toNat - '0'.toNat)) 0

/-- The place in brackets in a list of the given length, if it has one, and the path after it. -/
def pathPlace? (length : Nat) (s : List Char) : Option (Option Nat × List Char) :=
  let digits := s.takeWhile Char.isDigit
  match digits.isEmpty, s.drop digits.length with
  | false, ']' :: rest => some (some (digitsValue digits), rest)
  | _, _ =>
    match s with
    | '#' :: ']' :: rest => some (none, rest)
    | '#' :: '-' :: back =>
      let digits := back.takeWhile Char.isDigit
      match digits.isEmpty, back.drop digits.length with
      | false, ']' :: rest =>
        let n := digitsValue digits
        some (if n ≤ length then some (length - n) else none, rest)
      | _, _ => none
    | _ => none

/-- A path is malformed. -/
inductive PathError where
  | malformed
deriving DecidableEq, Repr

/-- The part of a document at a path, if there is one.  The path is looked at only as far as the
document has parts for it. -/
def follow : Nat → List Char → Json → Except PathError (Option Json)
  | 0, _, _ => .ok none
  | _ + 1, [], j => .ok (some j)
  | fuel + 1, '.' :: path, j =>
    match pathKey? path with
    | none => .error .malformed
    | some (key, path) =>
      match j.field? (String.ofList key) with
      | some part => follow fuel path part
      | none => .ok none
  | fuel + 1, '[' :: path, j =>
    match j with
    | .list items =>
      match pathPlace? items.length path with
      | none => .error .malformed
      | some (none, _) => .ok none
      | some (some i, path) =>
        match items[i]? with
        | some part => follow fuel path part
        | none => .ok none
    | _ => .ok none
  | _ + 1, _ :: _, _ => .error .malformed

/-- The part of a document at the path of a key. -/
def partAt (key : String) (document : Json) : Except PathError (Option Json) :=
  let path := '.' :: ((literalText? key.toList).getD [])
  follow (path.length + 1) path document

end CardQuery.Sql
