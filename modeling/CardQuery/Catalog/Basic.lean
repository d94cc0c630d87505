/-
**Messages.**

A catalog gives texts to keys such as `field.name`.  A text may hold names in braces, which are
replaced by values when the message is used; a key without a message stands for itself.

Main definitions:

* `Catalog`, `Catalog.get?`, `Catalog.merge` — the messages, and laying some over others;
* `Catalog.ofTable` — the messages of a settings document: the keys are the paths of its values;
* `interpolate`, `Catalog.message`, `Catalog.lookup` — messages with their values filled in.
-/

import CardQuery.Toml.Reader
import CardQuery.Toml.Writer

set_option autoImplicit false

namespace CardQuery

/-- Messages by key. -/
structure Catalog where
  messages : KeyedList String
deriving DecidableEq, Repr, Inhabited

/-! ### Filling in values -/

/-- The value of the name at the head of a text, and the text after the brace that closes it. -/
def placeholder? (params : List (String × String)) (s : List Char) :
    Option (List Char × List Char) :=
  match s.dropWhile (· != '\x7d') with
  | [] => none
  | _ :: rest =>
    match params.find? fun p => p.1.toList == s.takeWhile (· != '\x7d') with
    | some (_, value) => some (value.toList, rest)
    | none => none

theorem length_placeholder?_lt {params : List (String × String)} {s value rest : List Char}
    (h : placeholder? params s = some (value, rest)) : rest.length < s.length := by
  unfold placeholder? at h
  split at h
  · contradiction
  · next c tail hs =>
    split at h
    · obtain ⟨-, rfl⟩ := Prod.mk.inj (Option.some.inj h)
      have := (List.dropWhile_suffix (l := s) (· != '\x7d')).length_le
      rw [hs] at this
      exact this
    · contradiction

/-- The text with the names in braces replaced in one pass.  Values are not looked at again, and an
opening brace that no name follows stays. -/
def interpolate (params : List (String × String)) (s : List Char) : List Char :=
  match s with
  | [] => []
  | c :: rest =>
    if c = '\x7b' then
      match _h : placeholder? params rest with
      | some (value, after) => value ++ interpolate params after
      | none => c :: interpolate params rest
    else c :: interpolate params rest
termination_by s.length
decreasing_by
  · exact Nat.lt_succ_of_lt (length_placeholder?_lt _h)
  · simp
  · simp

/-! ### Messages of a table -/

/-- The path of a field below a path; the path of the whole table is empty. -/
def joinPath (path key : String) : String := if path.isEmpty then key else path ++ "." ++ key

mutual

/-- The messages of a value: those of the fields of a table, else the text of the value itself. -/
def messagesOf (path : String) : Toml.Value → List (String × String)
  | .table fields => messagesOfFields path fields
  | .text s => [(path, s)]
  | .integer i => [(path, (Toml.Value.integer i).render)]
  | .real x => [(path, (Toml.Value.real x).render)]
  | .bool b => [(path, (Toml.Value.bool b).render)]
  | .dateTime t => [(path, (Toml.Value.dateTime t).render)]
  | .list items => [(path, (Toml.Value.list items).render)]

/-- The messages of fields below a path. -/
def messagesOfFields (path : String) : List (String × Toml.Value) → List (String × String)
  | [] => []
  | (key, value) :: rest => messagesOf (joinPath path key) value ++ messagesOfFields path rest

end

namespace Catalog

/-- No messages. -/
def empty : Catalog := ⟨[]⟩

/-- The messages of a table; of two with one key the later counts. -/
def ofTable (table : Toml.Table) : Catalog := ⟨KeyedList.ofEntries (messagesOfFields "" table)⟩

/-- The messages of a settings document. -/
def read? (text : String) : Option Catalog := (Toml.read? text).map ofTable

/-- The message of a key as it is written. -/
def get? (c : Catalog) (key : String) : Option String := c.messages.find? key

/-- The messages of `overlay`, and those of the first catalog where it has none. -/
def merge (c overlay : Catalog) : Catalog := ⟨c.messages.insertAll overlay.messages⟩

/-- The number of messages. -/
def size (c : Catalog) : Nat := c.messages.length

/-- The message of a key with its values filled in, or else the key. -/
def message (c : Catalog) (key : String) (params : List (String × String)) : String :=
  match c.get? key with
  | some template => String.ofList (interpolate params template.toList)
  | none => key

/-- The message of a key with its values filled in; a message that equals its key is none. -/
def lookup (c : Catalog) (key : String) (params : List (String × String)) : Option String :=
  let found := c.message key params
  if found = key then none else some found

/-- The message of a key with its values filled in, or else the given text. -/
def lookupOr (c : Catalog) (key : String) (params : List (String × String)) (text : String) :
    String :=
  (c.lookup key params).getD text

end Catalog

end CardQuery
