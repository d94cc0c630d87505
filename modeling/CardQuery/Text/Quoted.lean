/-
**Texts in quotes.**

A text is shown between double quotes with escapes for what cannot be seen: the common control
characters have short escapes, and every other character that has no shape of its own is given by
its code.

Main definitions:

* `Text.isVisible` — the character has a shape of its own;
* `Text.quoted` — a text in quotes.
-/

import CardQuery.Unicode.PropertyName

set_option autoImplicit false

namespace CardQuery.Text

open Unicode

/-- Has the character a shape of its own?  Marks that join others, separators other than the plain
space, controls and unassigned codes have none. -/
def isVisible (c : Char) : Bool :=
  c == ' ' ||
    !(graphemeExtend.has c || control.has c || format.has c || privateUse.has c
      || separators.any (·.has c) || !assigned.any (·.has c))

/-- A character by its code, in hexadecimal digits. -/
def codeEscape (c : Char) : List Char :=
  ['\\', 'u', '\x7b'] ++ Nat.toDigits 16 c.toNat ++ ['\x7d']

/-- A character between quotes. -/
def escaped (c : Char) : List Char :=
  if c = '\x00' then ['\\', '0']
  else if c = '\t' then ['\\', 't']
  else if c = '\r' then ['\\', 'r']
  else if c = '\n' then ['\\', 'n']
  else if c = '\\' then ['\\', '\\']
  else if c = '"' then ['\\', '"']
  else if isVisible c then [c]
  else codeEscape c

/-- A text in quotes. -/
def quoted (s : String) : String := String.ofList ('"' :: (s.toList.flatMap escaped ++ ['"']))

end CardQuery.Text
