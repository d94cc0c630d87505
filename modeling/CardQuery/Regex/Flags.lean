/-
**Flags of patterns.**

Flags change what the characters of a pattern mean from a directive to the end of the group that it
stands in, or inside one group.  Without the flag for all scripts a pattern is confined to plain
text: a class or a byte that could reach beyond it is refused.

Main definitions:

* `Flags` — the flags in force;
* `Flags.literal?`, `Flags.anyChar?`, `Flags.digitClass?`, `Flags.named?` — what characters and
  classes mean under them;
* `scanFlags` — the flags of a directive or a group.
-/

import CardQuery.Regex.Pattern

set_option autoImplicit false

namespace CardQuery.Regex

open CardQuery.Unicode

/-- The flags in force. -/
structure Flags where
  ignoreCase : Bool
  multiLine : Bool
  dotAll : Bool
  allScripts : Bool
  returnLines : Bool
  verbose : Bool
deriving DecidableEq, Repr

/-- The flags at the start of a pattern. -/
def Flags.initial (ignoreCase : Bool) : Flags := ⟨ignoreCase, false, false, true, false, false⟩

namespace Flags

/-! ### The meaning of characters and classes -/

/-- Is the character one of plain text? -/
def isPlain (c : Char) : Bool := c.toNat < 128

/-- Both cases of a letter of plain text. -/
def plainCases (c : Char) : CharSet :=
  .unionOf [.single c, .single c.toLower, .single c.toUpper]

/-- A character that stands for itself.  When the pattern is confined to plain text, one of another
script has no other case, and one written as a byte has to be of plain text. -/
def literal? (f : Flags) (c : Char) (byte : Bool) : Option CharSet :=
  if f.allScripts then some (.anyCaseIf f.ignoreCase (.single c))
  else if isPlain c then some (if f.ignoreCase then plainCases c else .single c)
  else if byte then none
  else some (.single c)

/-- The point: any character, except line ends unless they are included. -/
def anyChar? (f : Flags) : Option CharSet :=
  if !f.allScripts then none
  else if f.dotAll then some (.complement .empty)
  else if f.returnLines then some (.complement (.union (.single '\n') (.single '\r')))
  else some (.complement (.single '\n'))

/-- The classes of digits, white space and words, and their complements in capitals. -/
def letterClass? (f : Flags) (name : Char) : Option CharSet :=
  let negated := name.isUpper
  let plain (ranges : List (Char × Char)) : Option CharSet :=
    if negated then none else some (.ofRanges ranges)
  match name.toLower, f.allScripts with
  | 'd', true => some (.negateIf negated (.property decimalDigits))
  | 's', true => some (.negateIf negated (.property blanks))
  | 'w', true => some (.negateIf negated (.property wordCharacters))
  | 'd', false => plain plainDigits
  | 's', false => plain plainBlanks
  | 'w', false => plain plainWords
  | _, _ => none

/-- A property of characters. -/
def property? (f : Flags) (p : Property) (negated : Bool) : Option CharSet :=
  if f.allScripts then some (.negateIf negated (.anyCaseIf f.ignoreCase (.property p))) else none

/-- Both cases of ranges of plain text. -/
def plainRangeCases (r : Char × Char) : List CharSet :=
  let shifted (low high : Char) (toOther : Char → Char) : List CharSet :=
    let first := if r.1.toNat < low.toNat then low else r.1
    let last := if high.toNat < r.2.toNat then high else r.2
    if first.toNat ≤ last.toNat then [.range (toOther first) (toOther last)] else []
  .range r.1 r.2 :: (shifted 'a' 'z' Char.toUpper ++ shifted 'A' 'Z' Char.toLower)

/-- A class of plain text that goes by a name between colons. -/
def named? (f : Flags) (ranges : List (Char × Char)) (negated : Bool) : Option CharSet :=
  if f.allScripts then
    some (.negateIf negated (.anyCaseIf f.ignoreCase (.ofRanges ranges)))
  else if negated then none
  else if f.ignoreCase then some (.unionOf (ranges.flatMap plainRangeCases))
  else some (.ofRanges ranges)

/-- A range inside brackets. -/
def range? (f : Flags) (low high : Char) : Option CharSet :=
  if f.allScripts then some (.range low high)
  else if isPlain low && isPlain high then
    some (if f.ignoreCase then .unionOf (plainRangeCases (low, high)) else .range low high)
  else none

/-- A class between brackets. -/
def bracketed? (f : Flags) (s : CharSet) (negated : Bool) : Option CharSet :=
  if f.allScripts then some (.negateIf negated (.anyCaseIf f.ignoreCase s))
  else if negated then none else some s

/-- The start or the end of a line or of the text. -/
def edge (f : Flags) (start : Bool) : Anchor :=
  match f.multiLine, f.returnLines, start with
  | false, _, true => .textStart
  | false, _, false => .textEnd
  | true, false, true => .lineStart
  | true, false, false => .lineEnd
  | true, true, true => .returnLineStart
  | true, true, false => .returnLineEnd

/-! ### Directives -/

/-- Sets the flag of a letter; the letter for the order of repetitions sets nothing. -/
def set? (f : Flags) (letter : Char) (value : Bool) : Option Flags :=
  match letter with
  | 'i' => some { f with ignoreCase := value }
  | 'm' => some { f with multiLine := value }
  | 's' => some { f with dotAll := value }
  | 'u' => some { f with allScripts := value }
  | 'R' => some { f with returnLines := value }
  | 'x' => some { f with verbose := value }
  | 'U' => some f
  | _ => none

end Flags

/-- Flags as written: the letters in order, with a minus before those that are cleared. -/
structure FlagList where
  items : List Char
  flags : Flags

/-- The flags of a directive or a group up to the colon or the closing parenthesis, which stays in
the text.  A letter stands only once, and so does the minus, which has a letter after it. -/
def scanFlags (f : Flags) (items : List Char) : List Char → Option (FlagList × List Char)
  | [] => none
  | c :: rest =>
    if c = ':' ∨ c = ')' then
      if items.head? = some '-' then none else some (⟨items.reverse, f⟩, c :: rest)
    else if items.contains c then none
    else if c = '-' then scanFlags f (c :: items) rest
    else
      match f.set? c (!items.contains '-') with
      | some f => scanFlags f (c :: items) rest
      | none => none

end CardQuery.Regex
