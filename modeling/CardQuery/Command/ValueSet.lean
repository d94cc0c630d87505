/-
**Sets of values.**

A card may store a list of values.  A query names one of them, perhaps by a short form, and a
command may admit only the values of a closed list.

Main definitions:

* `ValueSet` — the short forms and the admitted values of a command;
* `ValueSet.canonical`, `ValueSet.accepts` — the value that a text names, and whether it is admitted.
-/

import CardQuery.KeyedList
import CardQuery.Unicode.Case

set_option autoImplicit false

namespace CardQuery

/-- The short forms of a command in lower case, whether equal stored values count apart, and the
list of admitted values if it is closed. -/
structure ValueSet where
  shortForms : KeyedList String
  countDuplicates : Bool
  values : Option (List String)
deriving DecidableEq, Repr, Inhabited

namespace ValueSet

/-- No short forms, and every value is admitted. -/
def unlimited : ValueSet := ⟨[], false, none⟩

/-- The value that a text names: that of the short form, or the text itself. -/
def canonical (s : ValueSet) (raw : String) : String :=
  (s.shortForms.find? (Unicode.loweredText raw)).getD raw

/-- Is the value admitted?  The case of A to Z does not count. -/
def accepts (s : ValueSet) (value : String) : Bool :=
  match s.values with
  | none => true
  | some values => values.any fun v => Unicode.equalUpToAsciiCase v value

end ValueSet

end CardQuery
