/-
**White space.**

The characters that separate words, in any script, and the texts without them at their ends.

Main definitions:

* `isBlank` — the character is white space;
* `trimBlanks`, `trimmed` — a text without white space at both ends.
-/

import CardQuery.Unicode.Ranges

set_option autoImplicit false

namespace CardQuery.Unicode

/-- The white space of all scripts. -/
def whiteSpace : Ranges := [
  (0x9, 0xD), (0x20, 0x20), (0x85, 0x85), (0xA0, 0xA0), (0x1680, 0x1680), (0x2000, 0x200A),
  (0x2028, 0x2029), (0x202F, 0x202F), (0x205F, 0x205F), (0x3000, 0x3000)]

/-- Is the character white space? -/
def isBlank (c : Char) : Bool := whiteSpace.has c

/-- The characters without those blanks that open or end them. -/
def trimBlanks (s : List Char) : List Char :=
  ((s.dropWhile isBlank).reverse.dropWhile isBlank).reverse

/-- The text without white space at both ends. -/
def trimmed (s : String) : String := String.ofList (trimBlanks s.toList)

end CardQuery.Unicode
