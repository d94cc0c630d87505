/-
**Where a table is kept.**

A location names a database: one in memory, or a file.  Settings follow a question mark, and an
unknown setting makes the location invalid.

Main definitions:

* `Location`, `Location.read?` — a location and its text.
-/

import CardQuery.Unicode.Ranges

set_option autoImplicit false

namespace CardQuery

/-- A database: where it is, and how it may be opened. -/
structure Location where
  /-- The path of the file; a database in memory has none. -/
  file : Option (List Char)
  readOnly : Bool
  /-- The name of the way in which files are accessed, if it is not the usual one. -/
  access : Option String
deriving DecidableEq, Repr, Inhabited

namespace Location

/-- The text after a beginning, if it has it. -/
def after? : List Char → List Char → Option (List Char)
  | [], s => some s
  | c :: beginning, d :: s => if c = d then after? beginning s else none
  | _ :: _, [] => none

/-- The text after all repetitions of a beginning. -/
def afterAll (beginning : List Char) : Nat → List Char → List Char
  | 0, s => s
  | fuel + 1, s =>
    match after? beginning s with
    | some rest => afterAll beginning fuel rest
    | none => s

/-- The text after the name of the scheme. -/
def afterScheme (s : List Char) : List Char :=
  let s := afterAll "sqlite://".toList s.length s
  afterAll "sqlite:".toList s.length s

/-- The texts between separators, of which there is always one. -/
def splitAt (separator : Char) : List Char → List (List Char)
  | [] => [[]]
  | c :: rest =>
    if c = separator then [] :: splitAt separator rest
    else
      match splitAt separator rest with
      | [] => [[c]]
      | part :: parts => (c :: part) :: parts

/-- The value of a hexadecimal digit. -/
def hexValue? (c : Char) : Option Nat :=
  if c.isDigit then some (c.toNat - '0'.toNat)
  else if 'a' ≤ c ∧ c ≤ 'f' then some (c.toNat - 'a'.toNat + 10)
  else if 'A' ≤ c ∧ c ≤ 'F' then some (c.toNat - 'A'.toNat + 10)
  else none

/-- The bytes of a text, with those that are given in hexadecimal digits after a percent sign. -/
def percentBytes : List Char → List UInt8
  | '%' :: a :: b :: rest =>
    match hexValue? a, hexValue? b with
    | some m, some n => UInt8.ofNat (m * 16 + n) :: percentBytes rest
    | _, _ => 37 :: percentBytes (a :: b :: rest)
  | c :: rest => (String.singleton c).toUTF8.toList ++ percentBytes rest
  | [] => []
termination_by s => s.length

/-- The text of bytes, if they are one. -/
def decoded? (s : List Char) : Option String := String.fromUTF8? (percentBytes s).toByteArray

/-- A name and its value. -/
def setting? (s : List Char) : Option (String × String) := do
  let name := s.takeWhile (· != '=')
  let plain := fun s : List Char => s.map fun c => if c = '+' then ' ' else c
  return (← decoded? (plain name), ← decoded? (plain ((s.drop name.length).drop 1)))

/-- The location with a setting; only a few settings with a few values are known. -/
def withEntry? (l : Location) (entry : String × String) : Option Location :=
  match entry.1 with
  | "mode" =>
    match entry.2 with
    | "ro" => some { l with readOnly := true }
    | "rw" => some l
    | "rwc" => some l
    | "memory" => some { l with file := none }
    | _ => none
  | "cache" => if ["private", "shared"].contains entry.2 then some l else none
  | "immutable" => if ["true", "1", "false", "0"].contains entry.2 then some l else none
  | "vfs" => some { l with access := some entry.2 }
  | _ => none

/-- The location that a text names. -/
def read? (text : String) : Option Location := do
  let s := afterScheme text.toList
  let database := s.takeWhile (· != '?')
  let settings := splitAt '&' ((s.drop database.length).drop 1)
  let file ← if database = ":memory:".toList then some none
    else (decoded? database).map fun path => some path.toList
  let entries ← (settings.filter fun s => !s.isEmpty).mapM setting?
  entries.foldlM withEntry? ⟨file, false, none⟩

end Location

end CardQuery
