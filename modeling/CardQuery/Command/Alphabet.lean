/-
**Sets of letters as bits.**

A bitset command has an alphabet; a card stores the set of its letters as a number whose bit `i`
stands for the letter `i`.  A query names such a set by its letters, by a word that abbreviates
them, or by their number.

Main definitions:

* `Alphabet` — the letters and the words of a command;
* `Alphabet.mask`, `Alphabet.lettersOf` — the number of a set of letters, and the letters of a
  number;
* `LetterQuery`, `Alphabet.read` — what a value of a query asks for.
-/

import CardQuery.Error
import CardQuery.KeyedList
import CardQuery.Number.Reading
import CardQuery.Unicode.Case

set_option autoImplicit false

namespace CardQuery

open Unicode (asciiLowered loweredText trimmed)

/-- The letters of a bitset, and the words that abbreviate sequences of them. -/
structure Alphabet where
  letters : List Char
  words : KeyedList String
deriving DecidableEq, Repr, Inhabited

/-- What a value asks for: a set of letters, or a number of them. -/
inductive LetterQuery where
  | mask (bits : Nat)
  | count (letters : Nat)
deriving DecidableEq, Repr

namespace Alphabet

/-- The letters of an alphabet without words. -/
def ofText (letters : String) : Alphabet := ⟨letters.toList, []⟩

/-- No command has more letters than this, since a query for a number of letters lists all sets. -/
def mostLetters : Nat := 16

/-- The set of all letters; numbers have 64 bits at most. -/
def fullMask (a : Alphabet) : Nat := twoTo (min a.letters.length 64) - 1

/-- The place of a letter, regardless of the case of A to Z; the first of equal letters counts. -/
def place? (a : Alphabet) (c : Char) : Option Nat :=
  a.letters.findIdx? fun letter => asciiLowered letter == asciiLowered c

/-- The number of the set of letters that occur in a text, which has no other characters. -/
def mask (a : Alphabet) : List Char → Except Reason Nat
  | [] => .ok 0
  | c :: rest =>
    match a.place? c with
    | none => .error (.notALetter c a.letters)
    | some i => (a.mask rest).map fun bits => twoTo i ||| bits

/-- The letters of the set with the given number, from the place `i` on. -/
def lettersFrom (bits : Nat) : Nat → List Char → List Char
  | _, [] => []
  | i, c :: rest =>
    if bits.testBit i then c :: lettersFrom bits (i + 1) rest else lettersFrom bits (i + 1) rest

/-- The letters of the set with the given number, in alphabetical order. -/
def lettersOf (a : Alphabet) (bits : Nat) : String := String.ofList (lettersFrom bits 0 a.letters)

/-- Does the alphabet contain digits?  Then digits in a query are letters. -/
def hasDigits (a : Alphabet) : Bool := a.letters.any Char.isDigit

/-- A number of letters, which has 32 bits. -/
def readCount (digits : List Char) : Except Reason LetterQuery :=
  if fitsNat32 (decimalValue digits) then .ok (.count (decimalValue digits)) else .error .countTooLarge

/-- What a value asks for: first a word, then a number of letters, then letters. -/
def read (a : Alphabet) (raw : String) : Except Reason LetterQuery :=
  let value := trimmed raw
  match a.words.find? (loweredText value) with
  | some letters => (a.mask letters.toList).map .mask
  | none =>
    let s := value.toList
    if s.isEmpty then .error .expectedLetters
    else if s.all Char.isDigit && !a.hasDigits then readCount s
    else (a.mask s).map .mask

end Alphabet

end CardQuery
