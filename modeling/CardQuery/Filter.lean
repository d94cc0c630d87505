/-
**Predicates as filter documents.**

Stores of documents take their filters as documents: a field with a value asks for equality, and an
object with operators for other comparisons.

Main definitions:

* `Predicate.toFilter` — the filter that a predicate is;
* `SortKey.toFilter` — the order that a sort key is.
-/

import CardQuery.Json.Record
import CardQuery.Predicate.Document
import CardQuery.Regex.Literal

set_option autoImplicit false

namespace CardQuery

namespace CardFilter

/-- A document with one field. -/
def single (key : String) (value : Json) : Json := .object [(key, value)]

/-- A regular expression that ignores case. -/
def regex (source : String) : Json := .object [("$regex", .text source), ("$options", .text "i")]

/-- Exactly the text, up to case. -/
def exactText (value : String) : Json := regex ("^" ++ Regex.escape value ++ "$")

/-- The operator of a comparison. -/
def operator : Comparison → String
  | .equal => "$eq"
  | .less => "$lt"
  | .atMost => "$lte"
  | .greater => "$gt"
  | .atLeast => "$gte"

/-- The condition of a comparison; equality is asked for by the value itself. -/
def comparison (c : Comparison) (value : Scalar) : Json :=
  match c with
  | .equal => value.toJson
  | c => single (operator c) value.toJson

/-- Every card. -/
def all : Json := .object []

/-- No card. -/
def none : Json := single "$nor" (.list [all])

/-- A list of filters under an operator; a single one stands alone. -/
def group (operator : String) (empty : Json) : List Json → Json
  | [] => empty
  | [f] => f
  | fs => single operator (.list fs)

/-- The list has as many elements as it needs. -/
def elementCount (distinct : Bool) : Json :=
  if distinct then .object [("$exists", .bool true), ("$ne", .list [])]
  else single "$size" (.ofNat 1)

/-- No element differs from the text. -/
def noOtherThan (value : String) : Json :=
  single "$not" (single "$elemMatch" (single "$not" (exactText value)))

end CardFilter

open CardFilter

namespace Predicate

mutual

/-- The filter that a predicate is. -/
def toFilter : Predicate → Json
  | everything => CardFilter.all
  | contains key needle => single key (CardFilter.regex (Regex.escape needle))
  | regex key pattern => single key (CardFilter.regex pattern)
  | textEquals key value => single key (exactText value)
  | compare key c value => single key (comparison c value)
  | inList key values => single key (single "$in" (.list (values.map Scalar.toJson)))
  | present key => single key (.object [("$exists", .bool true), ("$ne", .null)])
  | hasElement key value => single key (single "$elemMatch" (exactText value))
  | soleElement key value distinct =>
    single "$and" (.list [single key (elementCount distinct), single key (noOtherThan value)])
  | bitsAllSet key mask => single key (single "$bitsAllSet" (.ofNat mask))
  | bitsAllClear key mask => single key (single "$bitsAllClear" (.ofNat mask))
  | not p => single "$nor" (.list [p.toFilter])
  | allOf ps => group "$and" CardFilter.all (toFilterList ps)
  | anyOf ps => group "$or" CardFilter.none (toFilterList ps)

/-- The filters that the predicates of a list are. -/
def toFilterList : List Predicate → List Json
  | [] => []
  | p :: ps => p.toFilter :: toFilterList ps

end

end Predicate

/-- The order that a sort key is. -/
def SortKey.toFilter (s : SortKey) : Json := single s.key (.ofInt (if s.descending then -1 else 1))

end CardQuery
