/-
**Names and texts of settings documents.**

A document is read line by line: space may stand anywhere inside a line, a comment runs to its end.
Names are plain or in quotes and are joined by dots; texts stand in one of four kinds of quotes.

Main definitions:

* `Toml.skipSpace`, `Toml.finishLine`, `Toml.skipLines` — what separates the parts of a document;
* `Toml.scanText` — a text in any of the four kinds of quotes;
* `Toml.scanKey` — a dotted name.
-/

import CardQuery.Toml.Basic

set_option autoImplicit false

namespace CardQuery.Toml

/-! ### Space, line ends and comments -/

/-- Space inside a line. -/
def isSpace (c : Char) : Bool := c == ' ' || c == '\t'

/-- The text after the space inside a line. -/
def skipSpace (s : List Char) : List Char := s.dropWhile isSpace

/-- The text after a line end, if it begins with one. -/
def lineEnd? : List Char → Option (List Char)
  | '\n' :: rest => some rest
  | '\r' :: '\n' :: rest => some rest
  | _ => none

/-- May the character stand in a comment? -/
def isCommentChar (c : Char) : Bool := c == '\t' || (32 ≤ c.toNat && c.toNat ≠ 127)

/-- The text after a comment, if it begins with one. -/
def skipComment : List Char → List Char
  | '#' :: rest => rest.dropWhile isCommentChar
  | s => s

/-- The next line: only space and a comment may stand before the end of this one. -/
def finishLine (s : List Char) : Option (List Char) :=
  match skipComment (skipSpace s) with
  | [] => some []
  | s => lineEnd? s

/-- The text after space, comments and line ends. -/
def skipLines : Nat → List Char → List Char
  | 0, s => s
  | fuel + 1, s =>
    let s := skipSpace s
    match lineEnd? s with
    | some rest => skipLines fuel rest
    | none =>
      match s with
      | '#' :: rest => skipLines fuel (rest.dropWhile isCommentChar)
      | s => s

/-! ### Texts -/

/-- The value of a hexadecimal digit. -/
def hexValue? (c : Char) : Option Nat :=
  if c.isDigit then some (c.toNat - '0'.toNat)
  else if 'a' ≤ c ∧ c ≤ 'f' then some (c.toNat - 'a'.toNat + 10)
  else if 'A' ≤ c ∧ c ≤ 'F' then some (c.toNat - 'A'.toNat + 10)
  else none

/-- A fixed number of hexadecimal digits. -/
def scanHex : Nat → Nat → List Char → Option (Nat × List Char)
  | 0, value, s => some (value, s)
  | _ + 1, _, [] => none
  | n + 1, value, c :: rest =>
    match hexValue? c with
    | some d => scanHex n (value * 16 + d) rest
    | none => none

/-- A character given by its code. -/
def scanCode (digits : Nat) (s : List Char) : Option (Char × List Char) :=
  match scanHex digits 0 s with
  | some (code, rest) => if code.isValidChar then some (Char.ofNat code, rest) else none
  | none => none

/-- The escape after a backslash. -/
def scanEscape : List Char → Option (Char × List Char)
  | 'b' :: rest => some ('\x08', rest)
  | 't' :: rest => some ('\t', rest)
  | 'n' :: rest => some ('\n', rest)
  | 'f' :: rest => some ('\x0c', rest)
  | 'r' :: rest => some ('\r', rest)
  | '"' :: rest => some ('"', rest)
  | '\\' :: rest => some ('\\', rest)
  | 'u' :: rest => scanCode 4 rest
  | 'U' :: rest => scanCode 8 rest
  | _ => none

/-- May the character stand in a text as itself? -/
def isTextChar (c : Char) : Bool := c == '\t' || (32 ≤ c.toNat && c.toNat ≠ 127)

/-- A text in double quotes after the opening one, its characters collected in reverse. -/
def scanBasic : Nat → List Char → List Char → Option (String × List Char)
  | 0, _, _ => none
  | fuel + 1, collected, s =>
    match s with
    | '"' :: rest => some (String.ofList collected.reverse, rest)
    | '\\' :: rest =>
      match scanEscape rest with
      | some (c, rest) => scanBasic fuel (c :: collected) rest
      | none => none
    | c :: rest => if isTextChar c then scanBasic fuel (c :: collected) rest else none
    | [] => none

/-- A text in single quotes after the opening one. -/
def scanLiteral (s : List Char) : Option (String × List Char) :=
  let body := s.takeWhile fun c => c != '\x27' && isTextChar c
  match s.drop body.length with
  | '\x27' :: rest => some (String.ofList body, rest)
  | _ => none

/-- The text after an escaped line end: all space and line ends up to the next other character. -/
def skipToText : Nat → List Char → List Char
  | 0, s => s
  | fuel + 1, s =>
    match lineEnd? (skipSpace s) with
    | some rest => skipToText fuel rest
    | none => skipSpace s

/-- The end of a tripled quote: up to two quotes more belong to the text. -/
def scanClosing (quote : Char) (s : List Char) : Option (List Char × List Char) :=
  let run := s.takeWhile (· == quote)
  if run.length < 3 then none
  else
    let extra := min 2 (run.length - 3)
    some (List.replicate extra quote, s.drop (extra + 3))

/-- A text in tripled double quotes after the opening and its line end. -/
def scanBasicLines : Nat → List Char → List Char → Option (String × List Char)
  | 0, _, _ => none
  | fuel + 1, collected, s =>
    match s with
    | [] => none
    | '"' :: rest =>
      match scanClosing '"' s with
      | some (extra, rest) => some (String.ofList (collected.reverse ++ extra), rest)
      | none => scanBasicLines fuel ('"' :: collected) rest
    | '\\' :: rest =>
      match scanEscape rest with
      | some (c, rest) => scanBasicLines fuel (c :: collected) rest
      | none =>
        match lineEnd? (skipSpace rest) with
        | some rest => scanBasicLines fuel collected (skipToText rest.length rest)
        | none => none
    | c :: rest =>
      match lineEnd? (c :: rest) with
      | some rest => scanBasicLines fuel ('\n' :: collected) rest
      | none => if isTextChar c then scanBasicLines fuel (c :: collected) rest else none

/-- A text in tripled single quotes after the opening and its line end. -/
def scanLiteralLines : Nat → List Char → List Char → Option (String × List Char)
  | 0, _, _ => none
  | fuel + 1, collected, s =>
    match s with
    | [] => none
    | '\x27' :: rest =>
      match scanClosing '\x27' s with
      | some (extra, rest) => some (String.ofList (collected.reverse ++ extra), rest)
      | none => scanLiteralLines fuel ('\x27' :: collected) rest
    | c :: rest =>
      match lineEnd? (c :: rest) with
      | some rest => scanLiteralLines fuel ('\n' :: collected) rest
      | none => if isTextChar c then scanLiteralLines fuel (c :: collected) rest else none

/-- A text in any of the four kinds of quotes. -/
def scanText (s : List Char) : Option (String × List Char) :=
  match s with
  | '"' :: '"' :: '"' :: rest =>
    let rest := (lineEnd? rest).getD rest
    scanBasicLines (rest.length + 1) [] rest
  | '\x27' :: '\x27' :: '\x27' :: rest =>
    let rest := (lineEnd? rest).getD rest
    scanLiteralLines (rest.length + 1) [] rest
  | '"' :: rest => scanBasic (rest.length + 1) [] rest
  | '\x27' :: rest => scanLiteral rest
  | _ => none

/-! ### Names -/

/-- One name. -/
def scanSimpleKey (s : List Char) : Option (String × List Char) :=
  match s with
  | '"' :: rest => scanBasic (rest.length + 1) [] rest
  | '\x27' :: rest => scanLiteral rest
  | s =>
    let name := s.takeWhile isBareKeyChar
    if name.isEmpty then none else some (String.ofList name, s.drop name.length)

/-- Names joined by dots, with space around each; there is at least one. -/
def scanKeyFrom : Nat → List String → List Char → Option (List String × List Char)
  | 0, _, _ => none
  | fuel + 1, names, s =>
    match scanSimpleKey (skipSpace s) with
    | none => none
    | some (name, rest) =>
      match skipSpace rest with
      | '.' :: rest => scanKeyFrom fuel (name :: names) rest
      | rest => some ((name :: names).reverse, rest)

/-- Dotted names and nested values go less deep than this. -/
def depthLimit : Nat := 80

/-- A dotted name. -/
def scanKey (s : List Char) : Option (List String × List Char) :=
  match scanKeyFrom (s.length + 1) [] s with
  | some (names, rest) => if names.length < depthLimit then some (names, rest) else none
  | none => none

end CardQuery.Toml
