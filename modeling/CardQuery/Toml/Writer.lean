/-
**The text of values.**

A value is written on one line where that is possible.  A text takes the plainest of the four kinds
of quotes that can hold it: double quotes, single quotes, and their tripled forms; one that none of
them can hold is escaped.

Main definitions:

* `Toml.quotedText` — a text in quotes;
* `Toml.DateTime.text`, `Toml.Real.text` — points in time and doubles;
* `Toml.Value.render` — a value.
-/

import CardQuery.Number.Notation
import CardQuery.Toml.Basic

set_option autoImplicit false

namespace CardQuery.Toml

/-! ### Texts -/

/-- The longest run of a character. -/
def longestRun (c : Char) : List Char → Nat → Nat → Nat
  | [], current, best => max current best
  | d :: rest, current, best =>
    if d = c then longestRun c rest (current + 1) best
    else longestRun c rest 0 (max current best)

/-- Has the character no place in a text without escapes? -/
def needsEscape (c : Char) : Bool :=
  (c.toNat < 32 && c != '\t' && c != '\n') || c.toNat == 127

/-- The upper-case hexadecimal digits of a code in four places. -/
def fourDigits (code : Nat) : List Char :=
  let digits := (Nat.toDigits 16 code).map Char.toUpper
  List.replicate (4 - digits.length) '0' ++ digits

/-- A character other than a double quote inside double quotes. -/
def escaped (keepLines : Bool) (c : Char) : List Char :=
  if c = '\x08' then ['\\', 'b']
  else if c = '\t' then ['\\', 't']
  else if c = '\n' then (if keepLines then ['\n'] else ['\\', 'n'])
  else if c = '\x0c' then ['\\', 'f']
  else if c = '\r' then ['\\', 'r']
  else if c = '\\' then ['\\', '\\']
  else if needsEscape c then ['\\', 'u'] ++ fourDigits c.toNat
  else [c]

/-- A text inside double quotes, of which so many may stand side by side: `run` counts those that
have just been written. -/
def escapedText (keepLines : Bool) (most : Nat) : Nat → List Char → List Char
  | _, [] => []
  | run, c :: rest =>
    if c = '"' then
      if run < most then c :: escapedText keepLines most (run + 1) rest
      else '\\' :: c :: escapedText keepLines most 0 rest
    else escaped keepLines c ++ escapedText keepLines most 0 rest

/-- A text between two marks. -/
def between (mark : List Char) (s : List Char) : String := String.ofList (mark ++ s ++ mark)

/-- A text in double quotes. -/
def inDoubles (s : List Char) : String := between ['"'] (escapedText false 0 0 s)

/-- A text in single quotes. -/
def inSingles (s : List Char) : String := between ['\x27'] s

/-- A text between tripled quotes; if it has several lines, they begin on a line of their own. -/
def tripled (quote : Char) (text s : List Char) : String :=
  between [quote, quote, quote] (if text.contains '\n' then '\n' :: s else s)

/-- A text in tripled double quotes. -/
def inTripledDoubles (s : List Char) : String := tripled '"' s (escapedText true 2 0 s)

/-- A text in tripled single quotes. -/
def inTripledSingles (s : List Char) : String := tripled '\x27' s s

/-- A text in the plainest quotes that can hold it. -/
def quotedText (text : String) : String :=
  let s := text.toList
  let escapes := s.any needsEscape
  let backslash := s.contains '\\'
  let doubles := longestRun '"' s 0 0
  let singles := longestRun '\x27' s 0 0
  let lines := s.contains '\n'
  if !escapes && !backslash && doubles = 0 && !lines then inDoubles s
  else if !escapes && singles = 0 && !lines then inSingles s
  else if !escapes && !backslash && doubles ≤ 2 then inTripledDoubles s
  else if !escapes && singles ≤ 2 then inTripledSingles s
  else if lines then inTripledDoubles s
  else inDoubles s

/-- The name of a field, in quotes unless it is plain. -/
def keyText (key : String) : String :=
  let s := key.toList
  if !s.isEmpty && s.all isBareKeyChar then key
  else
    let escapes := s.any fun c => needsEscape c || c == '\n'
    let plain := !s.contains '\\' && !s.contains '"'
    if !escapes && !plain && !s.contains '\x27' then inSingles s else inDoubles s

/-! ### Numbers and points in time -/

/-- A number padded with zeros. -/
def padded (width n : Nat) : String :=
  let text := Nat.repr n
  zeros (width - text.length) ++ text

/-- The fraction of a second without trailing zeros. -/
def fractionText (nanosecond : Nat) : String :=
  if nanosecond = 0 then ""
  else "." ++ String.ofList (((padded 9 nanosecond).toList.reverse.dropWhile (· == '0')).reverse)

/-- A time of day. -/
def Time.text (t : Time) : String :=
  padded 2 t.hour ++ ":" ++ padded 2 t.minute ++ ":" ++ padded 2 t.second
    ++ fractionText t.nanosecond

/-- A day. -/
def Date.text (d : Date) : String :=
  padded 4 d.year ++ "-" ++ padded 2 d.month ++ "-" ++ padded 2 d.day

/-- A distance from standard time. -/
def Offset.text : Offset → String
  | standard => "Z"
  | minutes count =>
    (if count < 0 then "-" else "+") ++ padded 2 (count.natAbs / 60) ++ ":"
      ++ padded 2 (count.natAbs % 60)

/-- A point in time; a day and a time are joined by a T. -/
def DateTime.text (t : DateTime) : String :=
  let date := match t.date with
    | some d => d.text
    | none => ""
  let joint := if t.date.isSome && t.time.isSome then "T" else ""
  let time := match t.time with
    | some time => time.text
    | none => ""
  let offset := match t.offset with
    | some o => o.text
    | none => ""
  date ++ joint ++ time ++ offset

/-- A double in plain notation with a point. -/
def Real.text : Real → String
  | .finite x =>
    let plain := x.plain
    if plain.toList.contains '.' then plain else plain ++ ".0"
  | .infinite negative => if negative then "-inf" else "inf"
  | .notANumber => "nan"

/-! ### Values -/

mutual

/-- The text of a value. -/
def Value.render : Value → String
  | .text s => quotedText s
  | .integer i => toString i
  | .real x => Real.text x
  | .bool b => if b then "true" else "false"
  | .dateTime t => t.text
  | .list items => "[" ++ String.intercalate ", " (renderItems items) ++ "]"
  | .table fields =>
    if fields.isEmpty then "\x7b\x7d"
    else "\x7b " ++ String.intercalate ", " (renderFields fields) ++ " \x7d"

/-- The texts of the items of a list. -/
def renderItems : List Value → List String
  | [] => []
  | item :: rest => item.render :: renderItems rest

/-- The texts of the fields of a table. -/
def renderFields : List (String × Value) → List String
  | [] => []
  | (key, value) :: rest => (keyText key ++ " = " ++ value.render) :: renderFields rest

end

end CardQuery.Toml
