/-
**Lower case of texts, and characters equal up to case.**

Two comparisons ignore case, and they differ.  Lower case of a text maps each character on its own,
except that a capital sigma at the end of a word becomes the final form and that the dotted
capital I becomes two characters.  Folding maps one character to one and knows no context; the
characters with the same image form an orbit.

Main definitions:

* `lowered`, `loweredText` — a text in lower case;
* `endsWord` — the context in which a sigma takes its final form;
* `folded`, `orbit` — folding of a character, and the characters that fold like it;
* `asciiLowered`, `equalUpToAsciiCase` — the same for the letters A to Z only.
-/

import CardQuery.Unicode.CaseTable
import CardQuery.Unicode.Property

set_option autoImplicit false

namespace CardQuery.Unicode

/-! ### Lower case -/

/-- The lower case of a character without regard to its context. -/
def lowerChar (c : Char) : Char := Char.ofNat (mapByRuns c.toNat lowercaseRuns)

/-- Is the first character that is not ignored a cased one? -/
def casedAhead (s : List Char) : Bool :=
  match s.dropWhile caseIgnorable.has with
  | c :: _ => cased.has c
  | [] => false

/-- A sigma takes its final form after a cased character unless one follows. -/
def endsWord (before after : List Char) : Bool := casedAhead before && !casedAhead after

/-- The lower case of one character in its context; `before` lists the characters before it from
the nearest on. -/
def lowerInContext (before : List Char) (c : Char) (after : List Char) : List Char :=
  if c = 'Σ' then [if endsWord before after then 'ς' else 'σ']
  else if c = 'İ' then ['i', '\u0307']
  else [lowerChar c]

/-- Lower case of the characters that follow `before`, which is listed from the nearest on. -/
def loweredAfter (before : List Char) : List Char → List Char
  | [] => []
  | c :: rest => lowerInContext before c rest ++ loweredAfter (c :: before) rest

/-- A sequence of characters in lower case. -/
def lowered (s : List Char) : List Char := loweredAfter [] s

/-- A text in lower case. -/
def loweredText (s : String) : String := String.ofList (lowered s.toList)

/-! ### Folding -/

/-- The representative of the characters that differ from `c` only in case. -/
def folded (c : Char) : Char := Char.ofNat (mapByRuns c.toNat foldingRuns)

/-- The code point that a run maps to `code`, if it maps one. -/
def CaseRun.source? (r : CaseRun) (code : Nat) : Option Nat :=
  let source := (code : Int) - r.shift
  if 0 ≤ source ∧ r.covers source.toNat then some source.toNat else none

/-- The characters with the same folding, the representative first. -/
def orbit (c : Char) : List Char :=
  let representative := (folded c).toNat
  Char.ofNat representative :: (foldingRuns.filterMap (·.source? representative)).map Char.ofNat

/-! ### The letters A to Z -/

/-- Lower case for the letters A to Z only. -/
def asciiLowered (c : Char) : Char :=
  if 'A' ≤ c ∧ c ≤ 'Z' then Char.ofNat (c.toNat + 32) else c

/-- Are the texts equal when the case of the letters A to Z is ignored? -/
def equalUpToAsciiCase (s t : String) : Bool :=
  s.toList.map asciiLowered == t.toList.map asciiLowered

end CardQuery.Unicode
