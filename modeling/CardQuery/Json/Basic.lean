/-
**Documents.**

Cards are documents: null, truth values, numbers, texts, lists and objects.  A number is either an
integer of machine size or a double, and the two stay apart: `3` and `3.0` have different text.  An
object keeps its fields in the order in which they were first written.

Main definitions:

* `Json.Number`, `Json` — numbers and documents;
* `Json.field?`, `Json.lookup` — a field of an object, and the value at a dotted path, where null
  counts as absent;
* `Json.Number.int64?`, `Json.Number.nat64?`, `Json.Number.toDouble` — the readings of a number.
-/

import CardQuery.KeyedList
import CardQuery.Number.Double

set_option autoImplicit false

namespace CardQuery

/-- A number of a document: an integer of machine size, or a double. -/
inductive Json.Number where
  | integer (value : Int)
  | double (value : Double)
deriving DecidableEq, Repr, Inhabited

/-- A document. -/
inductive Json where
  | null
  | bool (value : Bool)
  | number (value : Json.Number)
  | text (value : String)
  | list (items : List Json)
  | object (fields : List (String × Json))
deriving Repr, Inhabited

namespace Json

namespace Number

/-- The number as a signed integer of 64 bits; a double is none, even a whole one. -/
def int64? : Number → Option Int
  | integer i => if fitsInt64 i then some i else none
  | double _ => none

/-- The number as an unsigned integer of 64 bits; a double is none, even a whole one. -/
def nat64? : Number → Option Nat
  | integer i => if fitsNat64 i then some i.toNat else none
  | double _ => none

/-- The double nearest to the number. -/
def toDouble : Number → Double
  | integer i => Double.ofInt i
  | double x => x

end Number

/-- An integer as a document. -/
def ofInt (i : Int) : Json := number (.integer i)

/-- A natural number as a document. -/
def ofNat (n : Nat) : Json := number (.integer n)

/-- The text of a text document. -/
def asText? : Json → Option String
  | text s => some s
  | _ => none

/-- The truth value of a truth document. -/
def asBool? : Json → Option Bool
  | bool b => some b
  | _ => none

/-- The items of a list. -/
def asList? : Json → Option (List Json)
  | list items => some items
  | _ => none

/-- The fields of an object. -/
def asObject? : Json → Option (KeyedList Json)
  | object fields => some fields
  | _ => none

/-- Is the document null? -/
def isNull : Json → Bool
  | null => true
  | _ => false

/-- A field of an object; no other document has fields. -/
def field? : Json → String → Option Json
  | object fields, key => KeyedList.find? fields key
  | _, _ => none

/-- The value at a path of keys. -/
def at? (document : Json) : List String → Option Json
  | [] => some document
  | key :: rest =>
    match document.field? key with
    | some value => value.at? rest
    | none => none

/-- The parts of a dotted key: the texts between its dots, of which there is always one. -/
def splitDots : List Char → List (List Char)
  | [] => [[]]
  | c :: rest =>
    if c = '.' then [] :: splitDots rest
    else
      match splitDots rest with
      | [] => [[c]]
      | part :: parts => (c :: part) :: parts

/-- The path that a dotted key stands for. -/
def pathOf (key : String) : List String := (splitDots key.toList).map String.ofList

/-- The value at a dotted key; null counts as absent. -/
def lookup (document : Json) (key : String) : Option Json :=
  match document.at? (pathOf key) with
  | some null => none
  | found => found

end Json

end CardQuery
