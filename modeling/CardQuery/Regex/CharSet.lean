/-
**Sets of characters.**

A set is kept as the expression that describes it, and membership is evaluated: nothing is expanded
into ranges.  Ignoring case is an operation on sets as any other: a character belongs to
`anyCase s` when one of those that differ from it only in case belongs to `s`.

Main definitions:

* `CharSet`, `CharSet.has` — expressions and membership;
* `CharSet.single`, `CharSet.ofRanges` — one character, and a union of ranges;
* `decimalDigits`, `blanks`, `wordCharacters` — the classes of digits, white space and words.
-/

import CardQuery.Unicode.Case
import CardQuery.Unicode.PropertyName

set_option autoImplicit false

namespace CardQuery.Regex

open CardQuery.Unicode

/-- A description of a set of characters. -/
inductive CharSet where
  | empty
  | range (low high : Char)
  | property (p : Property)
  | union (s t : CharSet)
  | intersection (s t : CharSet)
  | difference (s t : CharSet)
  | symmetricDifference (s t : CharSet)
  | complement (s : CharSet)
  | anyCase (s : CharSet)

namespace CharSet

/-- Does the character belong to the set? -/
def has : CharSet → Char → Bool
  | empty, _ => false
  | range low high, c => low.toNat ≤ c.toNat && c.toNat ≤ high.toNat
  | property p, c => p.has c
  | union s t, c => s.has c || t.has c
  | intersection s t, c => s.has c && t.has c
  | difference s t, c => s.has c && !t.has c
  | symmetricDifference s t, c => s.has c != t.has c
  | complement s, c => !s.has c
  | anyCase s, c => (orbit c).any s.has

/-- The set of one character. -/
def single (c : Char) : CharSet := range c c

/-- The union of a list of sets. -/
def unionOf : List CharSet → CharSet
  | [] => empty
  | [s] => s
  | s :: rest => union s (unionOf rest)

/-- The union of ranges of characters. -/
def ofRanges (ranges : List (Char × Char)) : CharSet :=
  unionOf (ranges.map fun r => range r.1 r.2)

/-- The set, or its complement. -/
def negateIf (negated : Bool) (s : CharSet) : CharSet := if negated then complement s else s

/-- The set, closed under changes of case when case is ignored. -/
def anyCaseIf (ignoreCase : Bool) (s : CharSet) : CharSet := if ignoreCase then anyCase s else s

end CharSet

/-! ### Named classes -/

/-- Decimal digits of all scripts. -/
def decimalDigits : Property := ⟨[decimalNumber], false⟩

/-- White space of all scripts. -/
def blanks : Property := ⟨[whiteSpace], false⟩

/-- The characters of words: letters, marks, digits, connectors and joiners. -/
def wordCharacters : Property :=
  ⟨alphabetic :: (marks ++ [decimalNumber, connectorPunctuation, joinControl]), false⟩

/-- The digits 0 to 9. -/
def plainDigits : List (Char × Char) := [('0', '9')]

/-- White space of plain text. -/
def plainBlanks : List (Char × Char) :=
  [('\t', '\t'), ('\n', '\n'), ('\x0b', '\x0b'), ('\x0c', '\x0c'), ('\r', '\r'), (' ', ' ')]

/-- The characters of words of plain text. -/
def plainWords : List (Char × Char) := [('0', '9'), ('A', 'Z'), ('_', '_'), ('a', 'z')]

/-- The classes of plain text that go by a name between colons. -/
def plainClass? (name : List Char) : Option (List (Char × Char)) :=
  match String.ofList name with
  | "alnum" => some [('0', '9'), ('A', 'Z'), ('a', 'z')]
  | "alpha" => some [('A', 'Z'), ('a', 'z')]
  | "ascii" => some [('\x00', '\x7f')]
  | "blank" => some [('\t', '\t'), (' ', ' ')]
  | "cntrl" => some [('\x00', '\x1f'), ('\x7f', '\x7f')]
  | "digit" => some plainDigits
  | "graph" => some [('!', '~')]
  | "lower" => some [('a', 'z')]
  | "print" => some [(' ', '~')]
  | "punct" => some [('!', '/'), (':', '@'), ('[', '\x60'), ('\x7b', '~')]
  | "space" => some plainBlanks
  | "upper" => some [('A', 'Z')]
  | "word" => some plainWords
  | "xdigit" => some [('0', '9'), ('A', 'F'), ('a', 'f')]
  | _ => none

end CardQuery.Regex
