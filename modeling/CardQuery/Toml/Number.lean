/-
**Numbers and points in time of settings documents.**

Integers have 64 bits and are written in one of four bases; doubles need a fraction or an exponent,
or are written as words.  Underscores may stand between digits.

Main definitions:

* `Toml.scanInteger`, `Toml.scanReal` — numbers;
* `Toml.scanDateTime` — points in time.
-/

import CardQuery.Toml.Name

set_option autoImplicit false

namespace CardQuery.Toml

/-! ### Numbers -/

/-- Digits with single underscores between them; `isDigit` tells which characters are digits. -/
def scanDigits (isDigit : Char → Bool) : List Char → List Char × List Char
  | [] => ([], [])
  | c :: rest =>
    if isDigit c then
      match rest with
      | '_' :: d :: more =>
        if isDigit d then
          let r := scanDigits isDigit (d :: more)
          (c :: r.1, r.2)
        else ([c], rest)
      | rest =>
        let r := scanDigits isDigit rest
        (c :: r.1, r.2)
    else ([], c :: rest)
termination_by s => s.length
decreasing_by all_goals simp_all

/-- The value of digits in a base. -/
def digitsValue (base : Nat) (digits : List Char) : Nat :=
  digits.foldl (fun n c => n * base + (hexValue? c).getD 0) 0

/-- The optional sign before a number. -/
def scanSign : List Char → Bool × List Char
  | '-' :: rest => (true, rest)
  | '+' :: rest => (false, rest)
  | s => (false, s)

/-- The whole part of a number: no zero stands before another digit. -/
def scanWhole (s : List Char) : Option (List Char × List Char) :=
  match s with
  | '0' :: rest => some (['0'], rest)
  | s =>
    let (digits, rest) := scanDigits Char.isDigit s
    if digits.isEmpty then none else some (digits, rest)

/-- An integer of 64 bits. -/
def integer? (i : Int) : Option Value :=
  if fitsInt64 i then some (.integer i) else none

/-- An integer in one of the bases that have a sign of their own. -/
def scanBased (base : Nat) (isDigit : Char → Bool) (s : List Char) :
    Option (Value × List Char) :=
  let (digits, rest) := scanDigits isDigit s
  if digits.isEmpty then none
  else (integer? (digitsValue base digits)).map fun v => (v, rest)

/-- An integer. -/
def scanInteger (s : List Char) : Option (Value × List Char) :=
  match s with
  | '0' :: 'x' :: rest => scanBased 16 (fun c => (hexValue? c).isSome) rest
  | '0' :: 'o' :: rest => scanBased 8 (fun c => '0' ≤ c && c ≤ '7') rest
  | '0' :: 'b' :: rest => scanBased 2 (fun c => c == '0' || c == '1') rest
  | s =>
    let (negative, rest) := scanSign s
    match scanWhole rest with
    | none => none
    | some (digits, rest) =>
      let n : Int := digitsValue 10 digits
      (integer? (if negative then -n else n)).map fun v => (v, rest)

/-- The fraction of a number after its point. -/
def scanFraction (s : List Char) : Option (List Char × List Char) :=
  match s with
  | '.' :: rest =>
    let (digits, rest) := scanDigits Char.isDigit rest
    if digits.isEmpty then none else some (digits, rest)
  | _ => none

/-- The exponent of a number. -/
def scanExponent (s : List Char) : Option (Int × List Char) :=
  match s with
  | c :: rest =>
    if c = 'e' ∨ c = 'E' then
      let (negative, rest) := scanSign rest
      let (digits, rest) := scanDigits Char.isDigit rest
      if digits.isEmpty then none
      else
        let n : Int := min (digitsValue 10 digits) 1000000000
        some (if negative then -n else n, rest)
    else none
  | [] => none

/-- A number with a fraction, an exponent or both; one that is too large is refused. -/
def scanReal (s : List Char) : Option (Value × List Char) := do
  let (negative, rest) := scanSign s
  match rest with
  | 'i' :: 'n' :: 'f' :: rest => return (.real (.infinite negative), rest)
  | 'n' :: 'a' :: 'n' :: rest => return (.real .notANumber, rest)
  | rest =>
    let (whole, rest) ← scanWhole rest
    let (fraction, exponent, rest) ←
      match scanFraction rest with
      | some (fraction, rest) =>
        match scanExponent rest with
        | some (exponent, rest) => some (fraction, exponent, rest)
        | none => some (fraction, (0 : Int), rest)
      | none =>
        match scanExponent rest with
        | some (exponent, rest) => some ([], exponent, rest)
        | none => none
    let value := Double.ofDecimal negative (digitsValue 10 (whole ++ fraction))
      (exponent - fraction.length)
    guard (value != .infinite false)
    return (.real value, rest)

/-! ### Points in time -/

/-- A fixed number of decimal digits. -/
def scanFixed (count : Nat) (s : List Char) : Option (Nat × List Char) :=
  let digits := s.take count
  if digits.length = count ∧ digits.all Char.isDigit then
    some (digitsValue 10 digits, s.drop count)
  else none

/-- The text after a character, if it begins with it. -/
def afterChar? (c : Char) : List Char → Option (List Char)
  | d :: rest => if c = d then some rest else none
  | [] => none

/-- A day. -/
def scanDate (s : List Char) : Option (Date × List Char) := do
  let (year, s) ← scanFixed 4 s
  let s ← afterChar? '-' s
  let (month, s) ← scanFixed 2 s
  let s ← afterChar? '-' s
  let (day, s) ← scanFixed 2 s
  guard (Date.isValid ⟨year, month, day⟩)
  return (⟨year, month, day⟩, s)

/-- The digits of a fraction of a second, as nanoseconds; digits beyond the ninth are dropped. -/
def nanoseconds (digits : List Char) : Nat :=
  let kept := digits.take 9
  digitsValue 10 kept * tenTo (9 - kept.length)

/-- A time of day. -/
def scanTime (s : List Char) : Option (Time × List Char) := do
  let (hour, s) ← scanFixed 2 s
  let s ← afterChar? ':' s
  let (minute, s) ← scanFixed 2 s
  let s ← afterChar? ':' s
  let (second, s) ← scanFixed 2 s
  guard (hour ≤ 23 && minute ≤ 59 && second ≤ 60)
  match s with
  | '.' :: rest =>
    let digits := rest.takeWhile Char.isDigit
    guard (!digits.isEmpty)
    return (⟨hour, minute, second, nanoseconds digits⟩, rest.drop digits.length)
  | s => return (⟨hour, minute, second, 0⟩, s)

/-- A distance from standard time. -/
def scanOffset (s : List Char) : Option (Offset × List Char) :=
  match s with
  | 'Z' :: rest => some (.standard, rest)
  | 'z' :: rest => some (.standard, rest)
  | c :: rest =>
    if c = '+' ∨ c = '-' then do
      let (hours, s) ← scanFixed 2 rest
      let s ← afterChar? ':' s
      let (minutes, s) ← scanFixed 2 s
      guard (hours ≤ 23 && minutes ≤ 59)
      let count : Int := (hours * 60 + minutes : Nat)
      return (.minutes (if c = '-' then -count else count), s)
    else none
  | [] => none

/-- A day, a time, or both joined by a T or a space and possibly with a distance. -/
def scanDateTime (s : List Char) : Option (DateTime × List Char) :=
  match scanDate s with
  | some (date, rest) =>
    let joined := match rest with
      | c :: after => if c = 'T' ∨ c = 't' ∨ c = ' ' then scanTime after else none
      | [] => none
    match joined with
    | some (time, rest) =>
      match scanOffset rest with
      | some (offset, rest) => some (⟨some date, some time, some offset⟩, rest)
      | none => some (⟨some date, some time, none⟩, rest)
    | none => some (⟨some date, none, none⟩, rest)
  | none => (scanTime s).map fun r => (⟨none, some r.1, none⟩, r.2)

end CardQuery.Toml
