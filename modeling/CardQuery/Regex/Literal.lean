/-
**Literal text in patterns.**

A character that means something in a pattern is written with a backslash before it when it stands
for itself.

Main definitions:

* `isMeta` — the character needs the backslash;
* `escape` — the pattern that describes exactly the text.
-/

set_option autoImplicit false

namespace CardQuery.Regex

/-- Characters with a meaning of their own somewhere in a pattern. -/
def metaCharacters : List Char :=
  ['\\', '.', '+', '*', '?', '(', ')', '|', '[', ']', '\x7b', '\x7d', '^', '$', '#', '&', '-', '~']

/-- Has the character a meaning of its own somewhere in a pattern? -/
def isMeta (c : Char) : Bool := metaCharacters.contains c

/-- The characters of the pattern for a literal text. -/
def escapeChars (s : List Char) : List Char :=
  s.flatMap fun c => if isMeta c then ['\\', c] else [c]

/-- The pattern that describes exactly the text. -/
def escape (s : String) : String := String.ofList (escapeChars s.toList)

end CardQuery.Regex
