/-
**Records as documents.**

A record is written as an object with one field for each of its parts; it can also be read from the
list of its parts in their order.  Unknown fields of an object do not matter, and an optional part
may be absent or null.  A choice among named forms is an object with a tag, or a list that begins
with it.

Main definitions:

* `Json.record?` — the parts of a record;
* `Json.tagged?`, `Json.variant?` — a tag beside its content, and a tag among the parts;
* `Json.asNat32?`, `Json.asNat64?`, `Json.asInt64?` — numbers of machine size.
-/

import CardQuery.Json.Basic

set_option autoImplicit false

namespace CardQuery.Json

/-! ### Numbers of machine size -/

/-- A natural number of 64 bits. -/
def asNat64? : Json → Option Nat
  | number n => n.nat64?
  | _ => none

/-- A natural number of 32 bits. -/
def asNat32? (j : Json) : Option Nat :=
  match j.asNat64? with
  | some n => if fitsNat32 n then some n else none
  | none => none

/-- A whole number of 64 bits. -/
def asInt64? : Json → Option Int
  | number n => n.int64?
  | _ => none

/-! ### Records -/

/-- The required fields of an object. -/
def required? (fields : KeyedList Json) (names : List String) : Option (List Json) :=
  names.mapM fields.find?

/-- The optional fields of an object, null where they are absent. -/
def optional (fields : KeyedList Json) (names : List String) : List Json :=
  names.map fun name => (fields.find? name).getD null

/-- The parts of a record, the required ones before the optional ones. -/
def record? (required options : List String) : Json → Option (List Json)
  | object fields => (required? fields required).map fun parts => parts ++ optional fields options
  | list items => if items.length = required.length + options.length then some items else none
  | _ => none

/-- An optional part: null, or what it is read as. -/
def orNull? {α : Type} (read : Json → Option α) : Json → Option (Option α)
  | null => some none
  | j => (read j).map some

/-! ### Choices -/

/-- A tag, and the content beside it. -/
def tagged? (tag content : String) : Json → Option (String × Option Json)
  | object fields =>
    match KeyedList.find? fields tag with
    | some (text name) => some (name, KeyedList.find? fields content)
    | _ => none
  | list [text name, value] => some (name, some value)
  | _ => none

/-- A tag, and the record that it belongs to. -/
def variant? (tag : String) : Json → Option (String × Json)
  | object fields =>
    match KeyedList.find? fields tag with
    | some (text name) => some (name, object (fields.filter fun e => e.1 != tag))
    | _ => none
  | list (text name :: rest) => some (name, list rest)
  | _ => none

/-- A choice without content: its name, or an object with the name and null. -/
def unit? : Json → Option String
  | text name => some name
  | object [(name, null)] => some name
  | _ => none

/-! ### Writing -/

/-- The part, or null when there is none. -/
def orNull {α : Type} (write : α → Json) : Option α → Json
  | some a => write a
  | none => null

/-- The field of a part that may be absent. -/
def ifSome {α : Type} (name : String) (write : α → Json) : Option α → List (String × Json)
  | some a => [(name, write a)]
  | none => []

/-- Pairs of texts as lists of two. -/
def ofPairs (pairs : List (String × String)) : Json :=
  list (pairs.map fun p => list [text p.1, text p.2])

/-- Pairs of texts as the fields of an object. -/
def ofTexts (pairs : KeyedList String) : Json := object (pairs.map fun p => (p.1, text p.2))

/-! ### The size of parts -/

theorem sizeOf_lt_of_mem_fields {fields : List (String × Json)} {key : String} {j : Json}
    (h : (key, j) ∈ fields) : sizeOf j < sizeOf (object fields) := by
  have h₁ := List.sizeOf_lt_of_mem h
  have h₂ : sizeOf (key, j) = 1 + sizeOf key + sizeOf j := rfl
  have h₃ : sizeOf (object fields) = 1 + sizeOf fields := by simp
  omega

theorem sizeOf_lt_of_tagged? {tag content name : String} {j value : Json}
    (h : tagged? tag content j = some (name, some value)) : sizeOf value < sizeOf j := by
  unfold tagged? at h
  split at h
  · next fields =>
    split at h
    · simp only [Option.some.injEq, Prod.mk.injEq] at h
      exact sizeOf_lt_of_mem_fields (KeyedList.mem_of_find? h.2)
    · contradiction
  · simp only [Option.some.injEq, Prod.mk.injEq] at h
    obtain ⟨-, rfl⟩ := h
    simp
    omega
  · contradiction

theorem sizeOf_lt_of_mem_items {items : List Json} {j : Json} (h : j ∈ items) :
    sizeOf j < sizeOf (list items) := by
  have h₁ := List.sizeOf_lt_of_mem h
  have h₂ : sizeOf (list items) = 1 + sizeOf items := by simp
  omega

end CardQuery.Json
