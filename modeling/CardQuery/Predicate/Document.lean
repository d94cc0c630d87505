/-
**Predicates as documents.**

A predicate is written as an object with the name of its form and the record of its operands.  The
operand of a comparison is a bare number or text; a number that fits a whole number of 64 bits is
one.

Main definitions:

* `Predicate.toJson`, `Predicate.ofJson?` — predicates as documents and back;
* the same for `Scalar`, `Comparison` and `SortKey`.
-/

import CardQuery.Json.Record
import CardQuery.Predicate.Basic

set_option autoImplicit false

namespace CardQuery

open Json (record? tagged? asText? asBool? asList? asNat64?)

/-! ### Operands -/

namespace Scalar

/-- The operand as a document. -/
def toJson : Scalar → Json
  | integer i => .ofInt i
  | real x => .number (.double x)
  | text s => .text s

/-- The operand that a document is. -/
def ofJson? : Json → Option Scalar
  | .number n =>
    match n.int64? with
    | some i => some (integer i)
    | none => some (real n.toDouble)
  | .text s => some (text s)
  | _ => none

end Scalar

namespace Comparison

/-- All comparisons. -/
def all : List Comparison := [equal, less, atMost, greater, atLeast]

/-- The name of a comparison. -/
def name : Comparison → String
  | equal => "eq"
  | less => "lt"
  | atMost => "le"
  | greater => "gt"
  | atLeast => "ge"

/-- The comparison that a document names. -/
def ofJson? (j : Json) : Option Comparison :=
  match j.unit? with
  | some n => all.find? fun c => c.name == n
  | none => none

end Comparison

/-- An order of the results as a document. -/
def SortKey.toJson (s : SortKey) : Json :=
  .object [("key", .text s.key), ("descending", .bool s.descending)]

/-- The order of the results that a document is. -/
def SortKey.ofJson? (j : Json) : Option SortKey :=
  match record? ["key", "descending"] [] j with
  | some [.text key, .bool descending] => some ⟨key, descending⟩
  | _ => none

namespace Predicate

/-! ### Writing -/

/-- The document of a form and its operands. -/
def form (name : String) (args : Json) : Json := .object [("op", .text name), ("args", args)]

mutual

/-- The predicate as a document. -/
def toJson : Predicate → Json
  | everything => .object [("op", .text "all")]
  | contains key needle => form "contains" (.object [("key", .text key), ("needle", .text needle)])
  | regex key pattern => form "regex" (.object [("key", .text key), ("pattern", .text pattern)])
  | textEquals key value => form "text-equals" (.object [("key", .text key), ("value", .text value)])
  | compare key comparison value =>
    form "compare"
      (.object [("key", .text key), ("cmp", .text comparison.name), ("value", value.toJson)])
  | inList key values =>
    form "in-list" (.object [("key", .text key), ("values", .list (values.map Scalar.toJson))])
  | present key => form "present" (.object [("key", .text key)])
  | hasElement key value => form "has-element" (.object [("key", .text key), ("value", .text value)])
  | soleElement key value distinct =>
    form "sole-element"
      (.object [("key", .text key), ("value", .text value), ("distinct", .bool distinct)])
  | bitsAllSet key mask => form "bits-all-set" (.object [("key", .text key), ("mask", .ofNat mask)])
  | bitsAllClear key mask =>
    form "bits-all-clear" (.object [("key", .text key), ("mask", .ofNat mask)])
  | not p => form "not" p.toJson
  | allOf ps => form "and" (.list (toJsonList ps))
  | anyOf ps => form "or" (.list (toJsonList ps))

/-- The predicates of a list as documents. -/
def toJsonList : List Predicate → List Json
  | [] => []
  | p :: ps => p.toJson :: toJsonList ps

end

/-! ### Reading -/

/-- A form with a key and a text. -/
def keyAndText? (name : String) (make : String → String → Predicate) (args : Json) :
    Option Predicate :=
  match record? ["key", name] [] args with
  | some [.text key, .text value] => some (make key value)
  | _ => none

/-- A form with a key and a mask of 64 bits. -/
def keyAndMask? (make : String → Nat → Predicate) (args : Json) : Option Predicate :=
  match record? ["key", "mask"] [] args with
  | some [.text key, mask] => mask.asNat64?.map (make key)
  | _ => none

/-- A comparison with an operand. -/
def compare? (args : Json) : Option Predicate :=
  match record? ["key", "cmp", "value"] [] args with
  | some [.text key, cmp, value] => do
    return compare key (← Comparison.ofJson? cmp) (← Scalar.ofJson? value)
  | _ => none

/-- A comparison with a list of operands. -/
def inList? (args : Json) : Option Predicate :=
  match record? ["key", "values"] [] args with
  | some [.text key, .list values] => (values.mapM Scalar.ofJson?).map (inList key)
  | _ => none

/-- The condition that there is a value. -/
def present? (args : Json) : Option Predicate :=
  match record? ["key"] [] args with
  | some [.text key] => some (present key)
  | _ => none

/-- A condition on a list with one element. -/
def soleElement? (args : Json) : Option Predicate :=
  match record? ["key", "value", "distinct"] [] args with
  | some [.text key, .text value, .bool distinct] => some (soleElement key value distinct)
  | _ => none

/-- A form without predicates in it. -/
def leaf? (name : String) (args : Json) : Option Predicate :=
  match name with
  | "contains" => keyAndText? "needle" contains args
  | "regex" => keyAndText? "pattern" regex args
  | "text-equals" => keyAndText? "value" textEquals args
  | "compare" => compare? args
  | "in-list" => inList? args
  | "present" => present? args
  | "has-element" => keyAndText? "value" hasElement args
  | "sole-element" => soleElement? args
  | "bits-all-set" => keyAndMask? bitsAllSet args
  | "bits-all-clear" => keyAndMask? bitsAllClear args
  | _ => none

/-- The predicate that a document is. -/
def ofJson? (j : Json) : Option Predicate :=
  match _h : tagged? "op" "args" j with
  | none => none
  | some (name, none) => if name = "all" then some everything else none
  | some (name, some args) =>
    if name = "all" then if args.isNull then some everything else none
    else if name = "not" then (ofJson? args).map not
    else if name = "and" ∨ name = "or" then
      match _ha : args with
      | .list items =>
        (items.attach.mapM fun item => ofJson? item.1).map fun ps =>
          if name = "and" then allOf ps else anyOf ps
      | _ => none
    else leaf? name args
termination_by sizeOf j
decreasing_by
  · exact Json.sizeOf_lt_of_tagged? _h
  · have h₁ := Json.sizeOf_lt_of_mem_items item.2
    have h₂ := Json.sizeOf_lt_of_tagged? _h
    subst _ha
    omega

end Predicate

end CardQuery
