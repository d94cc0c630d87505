/-
**Tables under construction.**

A name can be assigned once, and a table can be opened by a header once.  A table that was only
named on the way to another is implied: a header may still open it, unless it was implied by a
dotted name, and dotted names extend implied tables only.

Main definitions:

* `Toml.Entry`, `Toml.Draft` — a table under construction;
* `Toml.Draft.assign` — a value under a dotted name;
* `Toml.Draft.openTable`, `Toml.Draft.openItem` — the effect of the two kinds of headers;
* `Toml.Draft.finish` — the finished table, its names in ascending order.
-/

import CardQuery.Toml.Basic

set_option autoImplicit false

namespace CardQuery.Toml

/-- An entry of a table under construction: a finished value, a table that may still grow, or a
list of tables of which the last may still grow. -/
inductive Entry where
  | value (v : Value)
  | table (implied dotted : Bool) (fields : List (String × Entry))
  | tables (items : List (List (String × Entry)))

/-- A table under construction: was it only implied, was it implied by a dotted name, and what does
it hold so far? -/
structure Draft where
  implied : Bool
  dotted : Bool
  fields : KeyedList Entry

namespace Draft

/-- A table that has been opened and is still empty. -/
def empty : Draft := ⟨false, false, []⟩

/-- The table as an entry of another. -/
def entry (t : Draft) : Entry := .table t.implied t.dotted t.fields

/-- The table with an entry written. -/
def put (t : Draft) (key : String) (e : Entry) : Draft :=
  { t with fields := t.fields.insert key e }

/-- Changes the table at the end of a path, with the tables on the way implied where they are
missing.  Dotted names pass through implied tables only; in a list of tables the last one is
meant. -/
def changeAt (dotted : Bool) (change : Draft → Option Draft) : List String → Draft → Option Draft
  | [], t => change t
  | key :: path, t =>
    match t.fields.find? key with
    | none => (changeAt dotted change path ⟨true, dotted, []⟩).map fun child => t.put key child.entry
    | some (.value _) => none
    | some (.table implied wasDotted fields) =>
      if dotted && !implied then none
      else
        (changeAt dotted change path ⟨implied, wasDotted, fields⟩).map fun child =>
          t.put key child.entry
    | some (.tables items) =>
      match items.getLast? with
      | none => none
      | some last =>
        (changeAt dotted change path ⟨false, false, last⟩).map fun child =>
          t.put key (.tables (items.dropLast ++ [child.fields]))

/-- Changes the entry of the last name of a dotted name in the table that the others lead to. -/
def changeLast (dotted : Bool) (change : List String → String → Draft → Option Draft)
    (key : List String) (t : Draft) : Option Draft :=
  match key.getLast? with
  | none => none
  | some name => changeAt dotted (change key.dropLast name) key.dropLast t

/-- Assigns a value to a dotted name.  The name is new, and a table takes assignments either by
dotted names from outside or by plain ones from inside. -/
def assign (key : List String) (v : Value) (t : Draft) : Option Draft :=
  changeLast true (fun path name t =>
    if t.dotted == path.isEmpty || (t.fields.find? name).isSome then none
    else some (t.put name (.value v))) key t

/-- Opens the table of a header: it is new, or it was implied by headers of deeper tables. -/
def openTable (key : List String) (t : Draft) : Option Draft :=
  changeLast false (fun _ name t =>
    match t.fields.find? name with
    | none => some (t.put name empty.entry)
    | some (.table true false fields) => some (t.put name (.table false false fields))
    | some _ => none) key t

/-- Opens a further table of a list of tables. -/
def openItem (key : List String) (t : Draft) : Option Draft :=
  changeLast false (fun _ name t =>
    match t.fields.find? name with
    | none => some (t.put name (.tables [[]]))
    | some (.tables items) => some (t.put name (.tables (items ++ [[]])))
    | some _ => none) key t

end Draft

/-! ### Finished tables -/

/-- Inserts a field before the first one with a greater name. -/
def insertSorted (field : String × Value) : Table → Table
  | [] => [field]
  | f :: rest => if field.1 < f.1 then field :: f :: rest else f :: insertSorted field rest

/-- Fields in ascending order of their names. -/
def sorted (fields : Table) : Table := fields.foldr insertSorted []

mutual

/-- The value of a finished entry. -/
def Entry.finish : Entry → Value
  | .value v => v
  | .table _ _ fields => .table (sorted (finishFields fields))
  | .tables items => .list (finishTables items)

/-- The values of finished entries under their names. -/
def finishFields : List (String × Entry) → Table
  | [] => []
  | (key, e) :: rest => (key, e.finish) :: finishFields rest

/-- The values of finished tables. -/
def finishTables : List (List (String × Entry)) → List Value
  | [] => []
  | fields :: rest => .table (sorted (finishFields fields)) :: finishTables rest

end

/-- The finished table, its names in ascending order. -/
def Draft.finish (t : Draft) : Table := sorted (finishFields t.fields)

end CardQuery.Toml
