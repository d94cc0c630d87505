/-
**Settings documents.**

Settings and message catalogs are written as tables of named values: texts, integers, doubles, truth
values, points in time, lists and tables.

Main definitions:

* `Toml.DateTime` — a date, a time of day, or both, possibly with a distance from standard time;
* `Toml.Real` — a double, an infinity or the number that is none;
* `Toml.Value`, `Toml.Table` — values and tables.
-/

import CardQuery.KeyedList
import CardQuery.Number.Double

set_option autoImplicit false

namespace CardQuery.Toml

/-- A day of the calendar. -/
structure Date where
  year : Nat
  month : Nat
  day : Nat
deriving DecidableEq, Repr

/-- A time of day, down to nanoseconds. -/
structure Time where
  hour : Nat
  minute : Nat
  second : Nat
  nanosecond : Nat
deriving DecidableEq, Repr

/-- The distance from standard time: none, or a signed number of minutes. -/
inductive Offset where
  | standard
  | minutes (count : Int)
deriving DecidableEq, Repr

/-- A point in time as far as it was written. -/
structure DateTime where
  date : Option Date
  time : Option Time
  offset : Option Offset
deriving DecidableEq, Repr

/-- A number with a fraction or an exponent, or one of the special ones. -/
abbrev Real := Double.Reading

/-- A value. -/
inductive Value where
  | text (value : String)
  | integer (value : Int)
  | real (value : Real)
  | bool (value : Bool)
  | dateTime (value : DateTime)
  | list (items : List Value)
  | table (fields : List (String × Value))
deriving Repr

mutual

/-- Values are compared part by part. -/
def Value.decEq : (v w : Value) → Decidable (v = w)
  | .text s, .text t => decidable_of_iff (s = t) ⟨congrArg _, Value.text.inj⟩
  | .integer i, .integer j => decidable_of_iff (i = j) ⟨congrArg _, Value.integer.inj⟩
  | .real x, .real y => decidable_of_iff (x = y) ⟨congrArg _, Value.real.inj⟩
  | .bool a, .bool b => decidable_of_iff (a = b) ⟨congrArg _, Value.bool.inj⟩
  | .dateTime d, .dateTime e => decidable_of_iff (d = e) ⟨congrArg _, Value.dateTime.inj⟩
  | .list vs, .list ws => @decidable_of_iff _ (vs = ws) ⟨congrArg _, Value.list.inj⟩ (itemsDecEq vs ws)
  | .table fs, .table gs => @decidable_of_iff _ (fs = gs) ⟨congrArg _, Value.table.inj⟩ (fieldsDecEq fs gs)
  | .text _, .integer _ | .text _, .real _ | .text _, .bool _
  | .text _, .dateTime _ | .text _, .list _ | .text _, .table _ => .isFalse nofun
  | .integer _, .text _ | .integer _, .real _ | .integer _, .bool _
  | .integer _, .dateTime _ | .integer _, .list _ | .integer _, .table _ => .isFalse nofun
  | .real _, .text _ | .real _, .integer _ | .real _, .bool _
  | .real _, .dateTime _ | .real _, .list _ | .real _, .table _ => .isFalse nofun
  | .bool _, .text _ | .bool _, .integer _ | .bool _, .real _
  | .bool _, .dateTime _ | .bool _, .list _ | .bool _, .table _ => .isFalse nofun
  | .dateTime _, .text _ | .dateTime _, .integer _ | .dateTime _, .real _
  | .dateTime _, .bool _ | .dateTime _, .list _ | .dateTime _, .table _ => .isFalse nofun
  | .list _, .text _ | .list _, .integer _ | .list _, .real _
  | .list _, .bool _ | .list _, .dateTime _ | .list _, .table _ => .isFalse nofun
  | .table _, .text _ | .table _, .integer _ | .table _, .real _
  | .table _, .bool _ | .table _, .dateTime _ | .table _, .list _ => .isFalse nofun

/-- Lists of values are compared item by item. -/
def itemsDecEq : (vs ws : List Value) → Decidable (vs = ws)
  | [], [] => .isTrue rfl
  | v :: vs, w :: ws =>
    @decidable_of_iff _ (v = w ∧ vs = ws) (by simp) (@instDecidableAnd _ _ (Value.decEq v w) (itemsDecEq vs ws))
  | [], _ :: _ => .isFalse nofun
  | _ :: _, [] => .isFalse nofun

/-- Fields are compared one by one, each with its name. -/
def fieldsDecEq : (fs gs : List (String × Value)) → Decidable (fs = gs)
  | [], [] => .isTrue rfl
  | (m, v) :: fs, (n, w) :: gs =>
    @decidable_of_iff _ (m = n ∧ v = w ∧ fs = gs) (by simp [and_assoc])
      (@instDecidableAnd _ _ _ (@instDecidableAnd _ _ (Value.decEq v w) (fieldsDecEq fs gs)))
  | [], _ :: _ => .isFalse nofun
  | _ :: _, [] => .isFalse nofun

end

instance : DecidableEq Value := Value.decEq

/-- A table: named values. -/
abbrev Table := KeyedList Value

instance : DecidableEq Table := fieldsDecEq

/-- The text of a text value. -/
def Value.asText? : Value → Option String
  | text s => some s
  | _ => none

/-- The fields of a table value. -/
def Value.asTable? : Value → Option Table
  | table fields => some fields
  | _ => none

/-- May the character stand in a name without quotes? -/
def isBareKeyChar (c : Char) : Bool := c.isAlphanum || c == '-' || c == '_'

/-- Is the day one of the calendar? -/
def Date.isValid (d : Date) : Bool :=
  let leap := d.year % 4 = 0 ∧ (d.year % 100 ≠ 0 ∨ d.year % 400 = 0)
  let days :=
    if d.month = 2 then (if leap then 29 else 28)
    else if [4, 6, 9, 11].contains d.month then 30 else 31
  1 ≤ d.month && d.month ≤ 12 && 1 ≤ d.day && d.day ≤ days

end CardQuery.Toml
