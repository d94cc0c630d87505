/-
**Patterns.**

A pattern describes pieces of a text.  It is built from single characters out of a set, conditions
on the place between two characters, sequence, choice and repetition.  Whether a repetition takes
as many or as few rounds as it can changes which piece is found first, not whether there is one, and
is not kept.

Main definitions:

* `Anchor`, `Anchor.holds` — conditions on the characters to both sides of a place;
* `Pattern` — patterns;
* `Spans` — a pattern describes the piece between two places of a text.
-/

import CardQuery.Regex.CharSet

set_option autoImplicit false

namespace CardQuery.Regex

/-- A condition on a place in a text.  The four kinds of word condition come in two forms, with the
words of all scripts and with those of plain text. -/
inductive Anchor where
  | textStart
  | textEnd
  | lineStart
  | lineEnd
  | returnLineStart
  | returnLineEnd
  | wordBoundary (plain : Bool)
  | noWordBoundary (plain : Bool)
  | wordStart (plain : Bool)
  | wordEnd (plain : Bool)
  | wordStartHalf (plain : Bool)
  | wordEndHalf (plain : Bool)
deriving DecidableEq, Repr

/-- Is there a character of a word? -/
def isWord (plain : Bool) : Option Char → Bool
  | some c =>
    if plain then plainWords.any fun r => r.1.toNat ≤ c.toNat && c.toNat ≤ r.2.toNat
    else wordCharacters.has c
  | none => false

/-- Does the condition hold between the two characters, if there are such? -/
def Anchor.holds (before after : Option Char) : Anchor → Bool
  | textStart => before.isNone
  | textEnd => after.isNone
  | lineStart => before.isNone || before == some '\n'
  | lineEnd => after.isNone || after == some '\n'
  | returnLineStart =>
    before.isNone || before == some '\n' || (before == some '\r' && after != some '\n')
  | returnLineEnd =>
    after.isNone || after == some '\r' || (after == some '\n' && before != some '\r')
  | wordBoundary plain => isWord plain before != isWord plain after
  | noWordBoundary plain => isWord plain before == isWord plain after
  | wordStart plain => !isWord plain before && isWord plain after
  | wordEnd plain => isWord plain before && !isWord plain after
  | wordStartHalf plain => !isWord plain before
  | wordEndHalf plain => !isWord plain after

/-- A pattern; a repetition without upper bound has no limit. -/
inductive Pattern where
  | empty
  | one (s : CharSet)
  | anchor (a : Anchor)
  | seq (p q : Pattern)
  | choice (p q : Pattern)
  | repeated (p : Pattern) (least : Nat) (most : Option Nat)

/-- The character before a place of a text. -/
def charBefore? (t : List Char) (i : Nat) : Option Char := if i = 0 then none else t[i - 1]?

/-- The pattern describes the piece of the text between the places `i` and `j`. -/
inductive Spans (t : List Char) : Pattern → Nat → Nat → Prop
  | empty (i : Nat) : Spans t .empty i i
  | one {s : CharSet} {i : Nat} {c : Char} (there : t[i]? = some c) (member : s.has c = true) :
      Spans t (.one s) i (i + 1)
  | anchor {a : Anchor} {i : Nat} (holds : a.holds (charBefore? t i) t[i]? = true) :
      Spans t (.anchor a) i i
  | seq {p q : Pattern} {i j k : Nat} (first : Spans t p i j) (second : Spans t q j k) :
      Spans t (.seq p q) i k
  | left {p q : Pattern} {i j : Nat} (taken : Spans t p i j) : Spans t (.choice p q) i j
  | right {p q : Pattern} {i j : Nat} (taken : Spans t q i j) : Spans t (.choice p q) i j
  | done {p : Pattern} {most : Option Nat} {i : Nat} : Spans t (.repeated p 0 most) i i
  | round {p : Pattern} {least : Nat} {most : Option Nat} {i j k : Nat}
      (allowed : most ≠ some 0) (first : Spans t p i j)
      (rest : Spans t (.repeated p (least - 1) (most.map (· - 1))) j k) :
      Spans t (.repeated p least most) i k

/-- Somewhere in the text is a piece that the pattern describes. -/
def Occurs (p : Pattern) (t : List Char) : Prop :=
  ∃ i j, i ≤ t.length ∧ Spans t p i j

end CardQuery.Regex
