/-
**Reading documents.**

A recursive reader over the characters of a text.  A number without fraction and exponent that fits
a machine integer is one; any other number is a double, read in two roundings: its leading digits as
far as they fit 64 bits are rounded to a double, which is then multiplied or divided by the double
nearest to a power of ten and rounded again.  Lists and objects nest to a depth of 127.

Main definitions:

* `Json.NumberText`, `Json.scanNumber`, `Json.NumberText.value?` — the parts of a number and what
  they stand for;
* `Json.scanText` — a text in quotes;
* `Json.read?` — the document that a text holds.
-/

import CardQuery.Json.Basic

set_option autoImplicit false

namespace CardQuery.Json

/-- Spaces, tabs and line ends may stand between any two parts of a document. -/
def isSpace (c : Char) : Bool := c == ' ' || c == '\n' || c == '\t' || c == '\r'

/-- The text after its leading spaces. -/
def skipSpace (s : List Char) : List Char := s.dropWhile isSpace

/-- The value of a decimal digit. -/
def digitValue (c : Char) : Nat := c.toNat - '0'.toNat

/-- The value of a hexadecimal digit. -/
def hexValue? (c : Char) : Option Nat :=
  if c.isDigit then some (digitValue c)
  else if 'a' ≤ c ∧ c ≤ 'f' then some (c.toNat - 'a'.toNat + 10)
  else if 'A' ≤ c ∧ c ≤ 'F' then some (c.toNat - 'A'.toNat + 10)
  else none

/-! ### Numbers -/

/-- The parts of a number as they stand in the text. -/
structure NumberText where
  negative : Bool
  whole : List Char
  fraction : Option (List Char)
  exponent : Option (Bool × List Char)
deriving Repr

/-- The optional exponent at the head of a text: its sign and digits. -/
def scanExponent (s : List Char) : Option (Option (Bool × List Char) × List Char) :=
  match s with
  | c :: rest =>
    if c = 'e' ∨ c = 'E' then
      let (negative, rest) :=
        match rest with
        | '-' :: r => (true, r)
        | '+' :: r => (false, r)
        | r => (false, r)
      let digits := rest.takeWhile Char.isDigit
      if digits.isEmpty then none else some (some (negative, digits), rest.dropWhile Char.isDigit)
    else some (none, s)
  | [] => some (none, [])

/-- The optional fraction at the head of a text. -/
def scanFraction (s : List Char) : Option (Option (List Char) × List Char) :=
  match s with
  | '.' :: rest =>
    let digits := rest.takeWhile Char.isDigit
    if digits.isEmpty then none else some (some digits, rest.dropWhile Char.isDigit)
  | _ => some (none, s)

/-- The number at the head of a text; its whole part has no leading zero. -/
def scanNumber (s : List Char) : Option (NumberText × List Char) := do
  let (negative, s) := match s with
    | '-' :: rest => (true, rest)
    | rest => (false, rest)
  let whole := s.takeWhile Char.isDigit
  guard (!whole.isEmpty && (whole.length == 1 || whole.head? != some '0'))
  let (fraction, s) ← scanFraction (s.dropWhile Char.isDigit)
  let (exponent, s) ← scanExponent s
  return (⟨negative, whole, fraction, exponent⟩, s)

/-- Appends digits to a number as long as the result fits 64 bits, and counts those appended. -/
def appendDigits (value count : Nat) : List Char → Nat × Nat
  | [] => (value, count)
  | c :: rest =>
    let next := value * 10 + digitValue c
    if fitsNat64 next then appendDigits next (count + 1) rest else (value, count)

/-- Scales by a power of ten of at most 308 at a time; too large a result is out of range. -/
def scaled? : Nat → Double → Int → Option Double
  | 0, x, _ => some x
  | fuel + 1, x, exponent =>
    if exponent.natAbs ≤ 308 then
      if 0 ≤ exponent then x.scaleUp (Double.powerOfTen exponent.toNat)
      else x.scaleDown (Double.powerOfTen exponent.natAbs)
    else if x.units = 0 then some x
    else if 0 ≤ exponent then none
    else (x.scaleDown (Double.powerOfTen 308)).bind fun x => scaled? fuel x (exponent + 308)

/-- The double of a significand and a power of ten, in two roundings. -/
def doubleOfParts? (negative : Bool) (significand : Nat) (exponent : Int) : Option Double :=
  (scaled? 8 (Double.ofInt significand) exponent).map fun x => ⟨negative, x.units⟩

/-- Exponents from `2^31` on are beyond reach. -/
def exponentBound : Nat := 2147483648

/-- The exponent as written, if it is within reach. -/
def exponentValue? (digits : List Char) : Option Nat :=
  let n := digits.foldl (fun n c => n * 10 + digitValue c) 0
  if n < exponentBound then some n else none

/-- The number that the parts stand for, if it is in range. -/
def NumberText.value? (t : NumberText) : Option Number :=
  let (head, taken) := appendDigits 0 0 t.whole
  if t.fraction.isNone && t.exponent.isNone && taken == t.whole.length then
    if !t.negative then some (.integer head)
    else if head ≠ 0 ∧ fitsInt64 (-(head : Int)) then some (.integer (-(head : Int)))
    else some (.double ⟨true, (Double.ofInt head).units⟩)
  else
    let dropped := t.whole.length - taken
    let (significand, places) := appendDigits head 0 (t.fraction.getD [])
    let shift : Int := (dropped : Int) - (places : Int)
    match t.exponent with
    | none => (doubleOfParts? t.negative significand shift).map .double
    | some (negativeExponent, digits) =>
      match exponentValue? digits with
      | none => if significand ≠ 0 ∧ !negativeExponent then none else some (.double ⟨t.negative, 0⟩)
      | some e =>
        let exponent := if negativeExponent then shift - (e : Int) else shift + (e : Int)
        (doubleOfParts? t.negative significand exponent).map .double

/-! ### Texts -/

/-- Four hexadecimal digits at the head of a text. -/
def scanFour (s : List Char) : Option (Nat × List Char) :=
  match s with
  | a :: b :: c :: d :: rest =>
    match hexValue? a, hexValue? b, hexValue? c, hexValue? d with
    | some a, some b, some c, some d => some (((a * 16 + b) * 16 + c) * 16 + d, rest)
    | _, _, _, _ => none
  | _ => none

/-- The character after an escaped `u`: one unit, or two units that form a pair. -/
def scanUnit (s : List Char) : Option (Char × List Char) := do
  let (high, rest) ← scanFour s
  if 0xD800 ≤ high ∧ high < 0xDC00 then
    match rest with
    | '\\' :: 'u' :: rest =>
      let (low, rest) ← scanFour rest
      guard (0xDC00 ≤ low && low < 0xE000)
      return (Char.ofNat (0x10000 + (high - 0xD800) * 0x400 + (low - 0xDC00)), rest)
    | _ => none
  else
    guard (!(0xDC00 ≤ high && high < 0xE000))
    return (Char.ofNat high, rest)

/-- The character that a simple escape stands for. -/
def escapedChar? (c : Char) : Option Char :=
  match c with
  | '"' => some '"'
  | '\\' => some '\\'
  | '/' => some '/'
  | 'b' => some '\x08'
  | 'f' => some '\x0c'
  | 'n' => some '\n'
  | 'r' => some '\r'
  | 't' => some '\t'
  | _ => none

/-- The text up to the closing quote, its characters collected in reverse. -/
def scanTextFrom : Nat → List Char → List Char → Option (String × List Char)
  | 0, _, _ => none
  | fuel + 1, collected, s =>
    match s with
    | [] => none
    | '"' :: rest => some (String.ofList collected.reverse, rest)
    | '\\' :: 'u' :: rest =>
      match scanUnit rest with
      | some (c, rest) => scanTextFrom fuel (c :: collected) rest
      | none => none
    | '\\' :: c :: rest =>
      match escapedChar? c with
      | some c => scanTextFrom fuel (c :: collected) rest
      | none => none
    | c :: rest => if c.toNat < 32 then none else scanTextFrom fuel (c :: collected) rest

/-- The text whose opening quote has been read. -/
def scanText (s : List Char) : Option (String × List Char) := scanTextFrom (s.length + 1) [] s

/-! ### Documents -/

/-- The text after a literal. -/
def afterLiteral? : List Char → List Char → Option (List Char)
  | [], s => some s
  | c :: literal, d :: s => if c = d then afterLiteral? literal s else none
  | _ :: _, [] => none

mutual

/-- The document at the head of a text, nested at most `depth - 1` deep. -/
def scanValue : Nat → Nat → List Char → Option (Json × List Char)
  | 0, _, _ => none
  | fuel + 1, depth, s =>
    match skipSpace s with
    | [] => none
    | c :: rest =>
      if c = '"' then (scanText rest).map fun r => (.text r.1, r.2)
      else if c = '[' then
        if depth ≤ 1 then none
        else
          match skipSpace rest with
          | ']' :: rest => some (.list [], rest)
          | rest => scanItems fuel (depth - 1) [] rest
      else if c = '\x7b' then
        if depth ≤ 1 then none
        else
          match skipSpace rest with
          | '\x7d' :: rest => some (.object [], rest)
          | rest => scanFields fuel (depth - 1) [] rest
      else if c = 'n' then (afterLiteral? ['u', 'l', 'l'] rest).map fun r => (.null, r)
      else if c = 't' then (afterLiteral? ['r', 'u', 'e'] rest).map fun r => (.bool true, r)
      else if c = 'f' then (afterLiteral? ['a', 'l', 's', 'e'] rest).map fun r => (.bool false, r)
      else
        match scanNumber (c :: rest) with
        | some (t, rest) => t.value?.map fun n => (.number n, rest)
        | none => none

/-- The items of a list up to its closing bracket, collected in reverse. -/
def scanItems : Nat → Nat → List Json → List Char → Option (Json × List Char)
  | 0, _, _, _ => none
  | fuel + 1, depth, collected, s =>
    match scanValue fuel depth s with
    | none => none
    | some (item, rest) =>
      match skipSpace rest with
      | ',' :: rest => scanItems fuel depth (item :: collected) rest
      | ']' :: rest => some (.list (item :: collected).reverse, rest)
      | _ => none

/-- The fields of an object up to its closing brace; a repeated key replaces the value. -/
def scanFields : Nat → Nat → KeyedList Json → List Char → Option (Json × List Char)
  | 0, _, _, _ => none
  | fuel + 1, depth, collected, s =>
    match skipSpace s with
    | '"' :: rest =>
      match scanText rest with
      | none => none
      | some (key, rest) =>
        match skipSpace rest with
        | ':' :: rest =>
          match scanValue fuel depth rest with
          | none => none
          | some (value, rest) =>
            let fields := KeyedList.insert collected key value
            match skipSpace rest with
            | ',' :: rest => scanFields fuel depth fields rest
            | '\x7d' :: rest => some (.object fields, rest)
            | _ => none
        | _ => none
    | _ => none

end

/-- Documents nest to a depth below this one. -/
def depthLimit : Nat := 128

/-- The document that a text holds, with nothing but space around it. -/
def read? (s : String) : Option Json :=
  match scanValue (s.length + 1) depthLimit s.toList with
  | some (document, rest) => if (skipSpace rest).isEmpty then some document else none
  | none => none

end CardQuery.Json
