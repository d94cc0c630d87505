/-
**Splitting a query into tokens.**

The scanner reads pieces between white space.  A piece that is no token is kept as a fault, and
reading goes on at the next white space, so that one bad piece never hides another.

A value in double quotes may hold white space; a backslash in it keeps the next character, whatever
it is.  A regular expression stands between slashes, and only a slash needs a backslash there.

Main definitions:

* `Fault`, `Fault.message` — what can be wrong with a piece;
* `scanIdentifier`, `scanOperator`, `scanHead` — the field, the modifier and the operator;
* `scanQuoted`, `scanRegex`, `scanOperand` — the value;
* `Piece`, `pieces` — the tokens and faults of a query with their places.
-/

import CardQuery.Token.Basic
import CardQuery.Unicode.Blank

set_option autoImplicit false

namespace CardQuery

open Unicode (isBlank)

/-- What is wrong with a piece of a query. -/
inductive Fault where
  | malformedOperator
  | missingValue (afterOperator : Bool)
  | unterminatedText
  | unterminatedRegex
  | emptyRegex
  | missingSeparator
deriving DecidableEq, Repr

/-- The wording of a fault. -/
def Fault.message : Fault → String
  | malformedOperator => "Malformed operator"
  | missingValue true => "Expected value after operator"
  | missingValue false => "Expected value"
  | unterminatedText => "Unterminated quoted string"
  | unterminatedRegex => "Unterminated regular expression"
  | emptyRegex => "Empty regular expression"
  | missingSeparator => "Expected whitespace after closing delimiter"

namespace Token

/-- The result of scanning, and the text from the place where scanning ended. -/
abbrev Scanned (α : Type) := Except Fault α × List Char

/-! ### Field, modifier and operator -/

/-- May the character open an identifier? -/
def isIdentifierStart (c : Char) : Bool := c.isAlpha || c == '_'

/-- May the character stand in an identifier? -/
def isIdentifierChar (c : Char) : Bool := c.isAlphanum || c == '_' || c == '-' || c == '.'

/-- The identifier at the head of a text. -/
def scanIdentifier : List Char → Option (List Char × List Char)
  | [] => none
  | c :: rest =>
    if isIdentifierStart c then
      some (c :: rest.takeWhile isIdentifierChar, rest.dropWhile isIdentifierChar)
    else none

/-- The operator at the head of a text; signs of two characters come first. -/
def scanOperator : List Char → Option (Operator × List Char)
  | '<' :: '=' :: rest => some (.atMost, rest)
  | '>' :: '=' :: rest => some (.atLeast, rest)
  | ':' :: rest => some (.has, rest)
  | '=' :: rest => some (.equals, rest)
  | '<' :: rest => some (.less, rest)
  | '>' :: rest => some (.greater, rest)
  | _ => none

/-- What stands before the value of a token with a field. -/
structure Head where
  field : List Char
  modifier : Option (List Char)
  operator : Operator
deriving DecidableEq, Repr

/-- A modifier after a colon, with the operator after it. -/
def scanModifier (s : List Char) : Option (List Char × Operator × List Char) :=
  match scanIdentifier s with
  | none => none
  | some (name, rest) =>
    match scanOperator rest with
    | none => none
    | some (operator, rest) => some (name, operator, rest)

/-- The field at the head of a text with its operator; after a colon, an identifier that is followed
by an operator is a modifier. -/
def scanHead (s : List Char) : Option (Head × List Char) :=
  match scanIdentifier s with
  | none => none
  | some (field, rest) =>
    match scanOperator rest with
    | none => none
    | some (operator, rest) =>
      match if operator = .has then scanModifier rest else none with
      | some (modifier, inner, rest) => some (⟨field, some modifier, inner⟩, rest)
      | none => some (⟨field, none, operator⟩, rest)

/-! ### Values -/

/-- Puts a character before what was scanned. -/
def Scanned.cons (c : Char) (r : Scanned (List Char)) : Scanned (List Char) :=
  (r.1.map (c :: ·), r.2)

/-- Quoted text after the opening quote. -/
def scanQuoted : List Char → Scanned (List Char)
  | [] => (.error .unterminatedText, [])
  | ['\\'] => (.error .unterminatedText, [])
  | '\\' :: c :: rest => Scanned.cons c (scanQuoted rest)
  | '"' :: rest => (.ok [], rest)
  | c :: rest => Scanned.cons c (scanQuoted rest)

/-- A regular expression after its first character, up to the closing slash. -/
def scanRegexFrom : List Char → Scanned (List Char)
  | [] => (.error .unterminatedRegex, [])
  | ['\\'] => (.error .unterminatedRegex, [])
  | '\\' :: '/' :: rest => Scanned.cons '/' (scanRegexFrom rest)
  | '\\' :: c :: rest => Scanned.cons '\\' (Scanned.cons c (scanRegexFrom rest))
  | '/' :: rest => (.ok [], rest)
  | c :: rest => Scanned.cons c (scanRegexFrom rest)

/-- A regular expression after the opening slash; it has at least one character. -/
def scanRegex : List Char → Scanned (List Char)
  | '/' :: rest => (.error .emptyRegex, rest)
  | s => scanRegexFrom s

/-- Is this the end of the text or white space? -/
def atSeparator : List Char → Bool
  | [] => true
  | c :: _ => isBlank c

/-- A value between delimiters, which ends at a separator. -/
def delimited (wrap : String → Operand) (r : Scanned (List Char)) : Scanned Operand :=
  match r with
  | (.error fault, rest) => (.error fault, rest)
  | (.ok content, rest) =>
    if atSeparator rest then (.ok (wrap (String.ofList content)), rest)
    else (.error .missingSeparator, rest)

/-- The value at the head of a text. -/
def scanOperand (afterOperator : Bool) (s : List Char) : Scanned Operand :=
  match s with
  | [] => (.error (.missingValue false), [])
  | '"' :: rest => delimited .text (scanQuoted rest)
  | '/' :: rest => delimited .regex (scanRegex rest)
  | c :: rest =>
    if isBlank c then (.error (.missingValue afterOperator), c :: rest)
    else
      (.ok (.text (String.ofList ((c :: rest).takeWhile (!isBlank ·)))),
        (c :: rest).dropWhile (!isBlank ·))

/-! ### Tokens -/

/-- Does the text begin with a character that belongs to operators? -/
def opensWithOperator : List Char → Bool
  | c :: _ => [':', '=', '<', '>'].contains c
  | [] => false

/-- A token whose qualifiers and head have been read. -/
def scanBody (qualifiers : List Qualifier) (head : Option Head) (s : List Char) : Scanned Token :=
  if head.isSome && opensWithOperator s then (.error .malformedOperator, s)
  else
    let r := scanOperand head.isSome s
    (r.1.map fun operand =>
      { qualifiers
        field := head.map fun h => String.ofList h.field
        modifier := head.bind fun h => h.modifier.map String.ofList
        operator := head.map (·.operator)
        operand },
      r.2)

/-- The token at the head of a text. -/
def scan (s : List Char) : Scanned Token :=
  let marks := s.takeWhile (· == '!')
  let s := s.dropWhile (· == '!')
  let qualifiers := marks.map fun _ => Qualifier.negation
  match scanHead s with
  | some (head, rest) => scanBody qualifiers (some head) rest
  | none => scanBody qualifiers none s

/-! ### What scanning leaves is the end of the text -/

theorem scanIdentifier_suffix {s name rest : List Char} (h : scanIdentifier s = some (name, rest)) :
    rest <:+ s := by
  cases s with
  | nil => simp [scanIdentifier] at h
  | cons c tail =>
    simp only [scanIdentifier] at h
    split at h
    · obtain ⟨-, rfl⟩ := Prod.mk.inj (Option.some.inj h)
      exact (List.dropWhile_suffix _).trans (List.suffix_cons c tail)
    · contradiction

theorem scanOperator_suffix {s rest : List Char} {op : Operator}
    (h : scanOperator s = some (op, rest)) : rest <:+ s := by
  unfold scanOperator at h
  split at h <;> first
    | contradiction
    | (obtain ⟨-, rfl⟩ := Prod.mk.inj (Option.some.inj h)
       first
         | exact List.suffix_cons _ _
         | exact (List.suffix_cons _ _).trans (List.suffix_cons _ _))

theorem scanModifier_suffix {s name rest : List Char} {op : Operator}
    (h : scanModifier s = some (name, op, rest)) : rest <:+ s := by
  unfold scanModifier at h
  split at h
  · contradiction
  · next hi =>
    split at h
    · contradiction
    · next ho =>
      simp only [Option.some.injEq, Prod.mk.injEq] at h
      obtain ⟨-, -, rfl⟩ := h
      exact (scanOperator_suffix ho).trans (scanIdentifier_suffix hi)

theorem scanHead_suffix {s rest : List Char} {head : Head} (h : scanHead s = some (head, rest)) :
    rest <:+ s := by
  unfold scanHead at h
  split at h
  · contradiction
  · next hi =>
    split at h
    · contradiction
    · next ho =>
      have hs := (scanOperator_suffix ho).trans (scanIdentifier_suffix hi)
      split at h
      · next hm =>
        obtain ⟨-, rfl⟩ := Prod.mk.inj (Option.some.inj h)
        split at hm
        · exact (scanModifier_suffix hm).trans hs
        · contradiction
      · obtain ⟨-, rfl⟩ := Prod.mk.inj (Option.some.inj h)
        exact hs

theorem scanQuoted_suffix (s : List Char) : (scanQuoted s).2 <:+ s := by
  fun_induction scanQuoted s with
  | case1 => exact List.suffix_refl _
  | case2 => exact List.nil_suffix
  | case3 c rest ih => exact ih.trans ((List.suffix_cons _ _).trans (List.suffix_cons _ _))
  | case4 rest => exact List.suffix_cons _ _
  | case5 c rest _ _ _ ih => exact ih.trans (List.suffix_cons _ _)

theorem scanRegexFrom_suffix (s : List Char) : (scanRegexFrom s).2 <:+ s := by
  fun_induction scanRegexFrom s with
  | case1 => exact List.suffix_refl _
  | case2 => exact List.nil_suffix
  | case3 rest ih => exact ih.trans ((List.suffix_cons _ _).trans (List.suffix_cons _ _))
  | case4 c rest _ ih => exact ih.trans ((List.suffix_cons _ _).trans (List.suffix_cons _ _))
  | case5 rest => exact List.suffix_cons _ _
  | case6 c rest _ _ _ _ ih => exact ih.trans (List.suffix_cons _ _)

theorem scanRegex_suffix (s : List Char) : (scanRegex s).2 <:+ s := by
  unfold scanRegex
  split
  · exact List.suffix_cons _ _
  · exact scanRegexFrom_suffix _

theorem delimited_rest (wrap : String → Operand) (r : Scanned (List Char)) :
    (delimited wrap r).2 = r.2 := by
  unfold delimited
  split
  · rfl
  · split <;> rfl

theorem scanOperand_suffix (afterOperator : Bool) (s : List Char) :
    (scanOperand afterOperator s).2 <:+ s := by
  unfold scanOperand
  split
  · exact List.suffix_refl _
  · rw [delimited_rest]
    exact (scanQuoted_suffix _).trans (List.suffix_cons _ _)
  · rw [delimited_rest]
    exact (scanRegex_suffix _).trans (List.suffix_cons _ _)
  · split
    · exact List.suffix_refl _
    · exact List.dropWhile_suffix _

theorem scanBody_suffix (qualifiers : List Qualifier) (head : Option Head) (s : List Char) :
    (scanBody qualifiers head s).2 <:+ s := by
  unfold scanBody
  split
  · exact List.suffix_refl _
  · exact scanOperand_suffix _ _

theorem scan_suffix (s : List Char) : (scan s).2 <:+ s := by
  unfold scan
  simp only
  split
  · next h =>
    exact (scanBody_suffix _ _ _).trans ((scanHead_suffix h).trans (List.dropWhile_suffix _))
  · exact (scanBody_suffix _ _ _).trans (List.dropWhile_suffix _)

end Token

/-! ### Pieces -/

/-- A piece of a query: its place, and the token that it is or the fault that keeps it from being
one. -/
structure Piece where
  span : Span
  content : Except Fault Token

/-- The text from the next separator on. -/
def dropPiece (s : List Char) : List Char := s.dropWhile (!isBlank ·)

/-- What follows the piece at the head of a text: after a fault, the rest of the piece is skipped. -/
def afterPiece (s : List Char) : List Char := dropPiece (Token.scan s).2

theorem length_afterPiece_lt {c : Char} {rest : List Char} (h : isBlank c = false) :
    (afterPiece (c :: rest)).length < (c :: rest).length := by
  have hs := Token.scan_suffix (c :: rest)
  have hd : (afterPiece (c :: rest)).length ≤ (Token.scan (c :: rest)).2.length :=
    (List.dropWhile_suffix _).length_le
  rcases Nat.lt_or_ge (Token.scan (c :: rest)).2.length (c :: rest).length with hlt | hge
  · omega
  · have heq : (Token.scan (c :: rest)).2 = c :: rest :=
      hs.eq_of_length (Nat.le_antisymm hs.length_le hge)
    have : afterPiece (c :: rest) = rest.dropWhile (!isBlank ·) := by
      simp [afterPiece, dropPiece, heq, h]
    rw [this]
    exact Nat.lt_succ_of_le (List.dropWhile_suffix _).length_le

/-- The pieces of a text whose first character has the given place. -/
def piecesFrom (place : Nat) (s : List Char) : List Piece :=
  match s with
  | [] => []
  | c :: rest =>
    if h : isBlank c then piecesFrom (place + 1) rest
    else
      let after := afterPiece (c :: rest)
      let stop := place + ((c :: rest).length - after.length)
      ⟨⟨place, stop⟩, (Token.scan (c :: rest)).1⟩ :: piecesFrom stop after
termination_by s.length
decreasing_by
  · simp
  · exact length_afterPiece_lt (by simpa using h)

/-- The pieces of a query in order. -/
def pieces (query : String) : List Piece := piecesFrom 0 query.toList

end CardQuery
