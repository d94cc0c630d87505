/-
**Reading patterns.**

A pattern is read from left to right, one construct at a time, with the open groups on a stack.  The
state keeps the finished alternatives of the group being read and the items of the current one, so
that a repetition can take the last item back.  Look-around and references to groups are no part of
the language; every fault makes the whole pattern invalid.

Main definitions:

* `Item`, `Frame`, `State` — what has been read;
* `step`, `run` — one construct, and all of them;
* `parse?`, `isValid` — the pattern that a text writes.
-/

import CardQuery.Number.Size
import CardQuery.Regex.Flags
import CardQuery.Regex.Literal

set_option autoImplicit false

namespace CardQuery.Regex

open CardQuery.Unicode

/-! ### Space and comments -/

/-- The text after white space and comments, which end with their line; `inComment` tells whether
the text begins inside one. -/
def skipComments : Bool → List Char → List Char
  | _, [] => []
  | true, c :: rest => if c = '\n' then skipComments false rest else skipComments true rest
  | false, c :: rest =>
    if isBlank c then skipComments false rest
    else if c = '#' then skipComments true rest
    else c :: rest

/-- In a verbose pattern white space and comments stand for nothing. -/
def skipLayout (f : Flags) (s : List Char) : List Char :=
  if f.verbose then skipComments false s else s

/-- The character after the first one, with white space and a comment sign skipped in a verbose
pattern. -/
def peekAfter (f : Flags) (rest : List Char) : Option Char :=
  if f.verbose then
    match rest.dropWhile isBlank with
    | '#' :: rest => (rest.dropWhile isBlank).head?
    | rest => rest.head?
  else rest.head?

/-! ### Escapes -/

/-- What an escape stands for. -/
inductive Escape where
  | literal (c : Char) (byte : Bool)
  | anchor (a : Anchor)
  | charSet (s : CharSet)

/-- The value of a hexadecimal digit. -/
def hexValue? (c : Char) : Option Nat :=
  if c.isDigit then some (c.toNat - '0'.toNat)
  else if 'a' ≤ c ∧ c ≤ 'f' then some (c.toNat - 'a'.toNat + 10)
  else if 'A' ≤ c ∧ c ≤ 'F' then some (c.toNat - 'A'.toNat + 10)
  else none

/-- The character with a code; surrogates and numbers beyond the last character are none. -/
def charOfCode? (code : Nat) : Option Char := if h : code.isValidChar then some (Char.ofNatAux code h) else none

/-- A fixed number of hexadecimal digits. -/
def scanHexDigits (f : Flags) : Nat → Nat → List Char → Option (Nat × List Char)
  | 0, value, s => some (value, s)
  | _ + 1, _, [] => none
  | n + 1, value, c :: rest =>
    match hexValue? c with
    | some d => scanHexDigits f n (value * 16 + d) (skipLayout f rest)
    | none => none

/-- Hexadecimal digits up to the closing brace; there is at least one. -/
def scanHexBraces (f : Flags) : Nat → Option Nat → List Char → Option (Nat × List Char)
  | 0, _, _ => none
  | _ + 1, _, [] => none
  | fuel + 1, value, c :: rest =>
    if c = '\x7d' then value.map fun v => (v, skipLayout f rest)
    else
      match hexValue? c with
      | some d => scanHexBraces f fuel (some (value.getD 0 * 16 + d)) (skipLayout f rest)
      | none => none

/-- The character given by its code, after the letter that tells the number of digits. -/
def scanCode (f : Flags) (digits : Nat) (s : List Char) : Option (Escape × List Char) :=
  match skipLayout f s with
  | [] => none
  | '\x7b' :: rest => do
    let (code, rest) ← scanHexBraces f (rest.length + 1) none (skipLayout f rest)
    return (.literal (← charOfCode? code) false, rest)
  | s => do
    let (code, rest) ← scanHexDigits f digits 0 s
    return (.literal (← charOfCode? code) (digits == 2), rest)

/-- The name of a property up to the closing brace. -/
def scanName (f : Flags) : Nat → List Char → List Char → Option (List Char × List Char)
  | 0, _, _ => none
  | _ + 1, _, [] => none
  | fuel + 1, name, c :: rest =>
    if c = '\x7d' then some (name.reverse, rest)
    else scanName f fuel (c :: name) (skipLayout f rest)

/-- The texts before and after the first occurrence of a separator. -/
def splitAt? (separator : List Char) : List Char → Option (List Char × List Char)
  | [] => if separator.isEmpty then some ([], []) else none
  | c :: rest =>
    if separator.isPrefixOf (c :: rest) then some ([], (c :: rest).drop separator.length)
    else (splitAt? separator rest).map fun r => (c :: r.1, r.2)

/-- The property that the text between braces names, and whether it is negated there. -/
def bracedProperty? (name : List Char) : Option (Property × Bool) :=
  match splitAt? ['!', '='] name with
  | some (name, value) => (propertyWithValue? name value).map fun p => (p, true)
  | none =>
    match splitAt? [':'] name with
    | some (name, value) => (propertyWithValue? name value).map fun p => (p, false)
    | none =>
      match splitAt? ['='] name with
      | some (name, value) => (propertyWithValue? name value).map fun p => (p, false)
      | none => (propertyNamed? name).map fun p => (p, false)

/-- A property of characters: one letter, or a name between braces. -/
def scanProperty (f : Flags) (negated : Bool) (s : List Char) : Option (Escape × List Char) :=
  match skipLayout f s with
  | [] => none
  | '\x7b' :: rest => do
    let (name, rest) ← scanName f (rest.length + 1) [] (skipLayout f rest)
    let (p, opposite) ← bracedProperty? name
    return (.charSet (← f.property? p (negated != opposite)), rest)
  | c :: rest =>
    if c = '\\' then none
    else do
      let p ← propertyNamed? [c]
      return (.charSet (← f.property? p negated), skipLayout f rest)

/-- The letters and hyphens of a word between braces, each followed by layout. -/
def scanWord (f : Flags) : Nat → List Char → List Char → List Char × List Char
  | 0, word, s => (word.reverse, s)
  | fuel + 1, word, s =>
    match s with
    | c :: rest =>
      if c.isAlpha || c == '-' then scanWord f fuel (c :: word) (skipLayout f rest)
      else (word.reverse, s)
    | [] => (word.reverse, [])

/-- The word boundary after its letter: a word between braces narrows it, and braces that hold
anything else are left to be read as a repetition. -/
def scanBoundary (f : Flags) (s : List Char) : Option (Escape × List Char) :=
  let plain := !f.allScripts
  match s with
  | '\x7b' :: rest =>
    match skipLayout f rest with
    | [] => none
    | c :: inner =>
      if c.isAlpha || c == '-' then
        let (word, after) := scanWord f (inner.length + 1) [] (c :: inner)
        match after with
        | '\x7d' :: after =>
          match String.ofList word with
          | "start" => some (.anchor (.wordStart plain), after)
          | "end" => some (.anchor (.wordEnd plain), after)
          | "start-half" => some (.anchor (.wordStartHalf plain), after)
          | "end-half" => some (.anchor (.wordEndHalf plain), after)
          | _ => none
        | _ => none
      else some (.anchor (.wordBoundary plain), s)
  | _ => some (.anchor (.wordBoundary plain), s)

/-- The escape after a backslash. -/
def scanEscape (f : Flags) : List Char → Option (Escape × List Char)
  | [] => none
  | c :: rest =>
    if c.isDigit then none
    else if c = 'x' then scanCode f 2 rest
    else if c = 'u' then scanCode f 4 rest
    else if c = 'U' then scanCode f 8 rest
    else if c = 'p' then scanProperty f false rest
    else if c = 'P' then scanProperty f true rest
    else if ['d', 's', 'w', 'D', 'S', 'W'].contains c then
      (f.letterClass? c).map fun s => (.charSet s, rest)
    else
      match c with
      | 'a' => some (.literal '\x07' false, rest)
      | 'f' => some (.literal '\x0c' false, rest)
      | 't' => some (.literal '\t' false, rest)
      | 'n' => some (.literal '\n' false, rest)
      | 'r' => some (.literal '\r' false, rest)
      | 'v' => some (.literal '\x0b' false, rest)
      | 'A' => some (.anchor .textStart, rest)
      | 'z' => some (.anchor .textEnd, rest)
      | 'b' => scanBoundary f rest
      | 'B' => some (.anchor (.noWordBoundary (!f.allScripts)), rest)
      | '<' => some (.anchor (.wordStart (!f.allScripts)), rest)
      | '>' => some (.anchor (.wordEnd (!f.allScripts)), rest)
      | c => if c.toNat < 128 && !c.isAlpha then some (.literal c false, rest) else none

/-! ### Classes between brackets -/

/-- A set and the depth of the expression that it was written as. -/
structure Class where
  members : CharSet
  depth : Nat

/-- The operations that combine two classes. -/
inductive ClassOp where
  | intersection
  | difference
  | symmetricDifference
deriving DecidableEq, Repr

/-- What waits for the rest of a class: the items before an open bracket, or an operation. -/
inductive ClassFrame where
  | opened (items : List Class) (negated : Bool)
  | operation (op : ClassOp) (left : Class)

/-- The union of the items of a class, which are listed from the last on. -/
def unionClass : List Class → Class
  | [] => ⟨.empty, 0⟩
  | [c] => c
  | items => ⟨.unionOf (items.reverse.map (·.members)), 1 + (items.map (·.depth)).foldl max 0⟩

/-- Combines two classes; case is ignored on both sides before they are combined. -/
def ClassOp.apply (f : Flags) (op : ClassOp) (left right : Class) : Class :=
  let l := CharSet.anyCaseIf (f.ignoreCase && f.allScripts) left.members
  let r := CharSet.anyCaseIf (f.ignoreCase && f.allScripts) right.members
  let members := match op with
    | .intersection => CharSet.intersection l r
    | .difference => CharSet.difference l r
    | .symmetricDifference => CharSet.symmetricDifference l r
  ⟨members, 1 + max left.depth right.depth⟩

/-- Completes the operations on top of the stack. -/
def finishOperation (f : Flags) (stack : List ClassFrame) (right : Class) :
    Class × List ClassFrame :=
  match stack with
  | .operation op left :: rest => (op.apply f left right, rest)
  | rest => (right, rest)

/-- A class literal or a named class inside brackets. -/
def scanClassItem (f : Flags) : List Char → Option (Escape × List Char)
  | [] => none
  | '\\' :: rest => scanEscape f rest
  | c :: rest => some (.literal c false, rest)

/-- The set that one item inside brackets stands for. -/
def classItem? (f : Flags) : Escape → Option CharSet
  | .literal c byte =>
    if byte && !f.allScripts && !Flags.isPlain c then none else f.range? c c
  | .charSet s => some s
  | .anchor _ => none

/-- An item of a class: a range, or a single character or class.  A hyphen before the closing
bracket or before another hyphen makes no range. -/
def scanClassRange (f : Flags) (s : List Char) : Option (CharSet × List Char) := do
  let (first, rest) ← scanClassItem f s
  let rest := skipLayout f rest
  match rest with
  | [] => none
  | c :: after =>
    let next := peekAfter f after
    if c ≠ '-' ∨ next = some ']' ∨ next = some '-' then
      return (← classItem? f first, rest)
    else
      let after := skipLayout f after
      guard (!after.isEmpty)
      let (last, rest) ← scanClassItem f after
      match first, last with
      | .literal low _, .literal high _ =>
        guard (low.toNat ≤ high.toNat)
        return (← f.range? low high, rest)
      | _, _ => none

/-- The named class of plain text after an opening bracket, if it is one. -/
def scanNamedClass (rest : List Char) : Option (List (Char × Char) × Bool × List Char) :=
  match rest with
  | ':' :: rest =>
    let (negated, rest) := match rest with
      | '^' :: rest => (true, rest)
      | rest => (false, rest)
    match rest.dropWhile (· ≠ ':') with
    | ':' :: ']' :: after =>
      (plainClass? (rest.takeWhile (· ≠ ':'))).map fun ranges => (ranges, negated, after)
    | _ => none
  | _ => none

/-- The hyphens that open a class, which stand for themselves. -/
def scanHyphens (f : Flags) : Nat → List Class → List Char → Option (List Class × List Char)
  | 0, _, _ => none
  | fuel + 1, items, s =>
    match s with
    | '-' :: rest =>
      let rest := skipLayout f rest
      if rest.isEmpty then none
      else scanHyphens f fuel (⟨.single '-', 0⟩ :: items) rest
    | s => some (items, s)

/-- The opening of a class after its bracket: whether it is negated, and the hyphens or the closing
bracket that stand for themselves there. -/
def scanOpening (f : Flags) (rest : List Char) : Option (Bool × List Class × List Char) := do
  let s := skipLayout f rest
  guard (!s.isEmpty)
  let (negated, s) := match s with
    | '^' :: rest => (true, skipLayout f rest)
    | s => (false, s)
  guard (!s.isEmpty)
  let (items, s) ← scanHyphens f (s.length + 1) [] s
  match items, s with
  | [], ']' :: rest =>
    let rest := skipLayout f rest
    guard (!rest.isEmpty)
    return (negated, [⟨.single ']', 0⟩], rest)
  | items, s => return (negated, items, s)

/-- Reads a class up to its closing bracket; the innermost open bracket is on top of the stack and
`items` are those read since. -/
def scanClass (f : Flags) : Nat → List ClassFrame → List Class → List Char →
    Option (Class × List Char)
  | 0, _, _, _ => none
  | fuel + 1, stack, items, s =>
    match skipLayout f s with
    | [] => none
    | '[' :: rest =>
      match scanNamedClass rest with
      | some (ranges, negated, rest) =>
        match f.named? ranges negated with
        | some members => scanClass f fuel stack (⟨members, 0⟩ :: items) rest
        | none => none
      | none =>
        match scanOpening f rest with
        | some (negated, inner, rest) => scanClass f fuel (.opened items negated :: stack) inner rest
        | none => none
    | ']' :: rest =>
      let (whole, stack) := finishOperation f stack (unionClass items)
      match stack with
      | .opened outer negated :: stack =>
        match f.bracketed? whole.members negated with
        | some members =>
          let closed : Class := ⟨members, whole.depth + 1⟩
          if stack.isEmpty then some (closed, rest)
          else scanClass f fuel stack (closed :: outer) rest
        | none => none
      | _ => none
    | '&' :: '&' :: rest =>
      let (left, stack) := finishOperation f stack (unionClass items)
      scanClass f fuel (.operation .intersection left :: stack) [] rest
    | '-' :: '-' :: rest =>
      let (left, stack) := finishOperation f stack (unionClass items)
      scanClass f fuel (.operation .difference left :: stack) [] rest
    | '~' :: '~' :: rest =>
      let (left, stack) := finishOperation f stack (unionClass items)
      scanClass f fuel (.operation .symmetricDifference left :: stack) [] rest
    | s =>
      match scanClassRange f s with
      | some (members, rest) => scanClass f fuel stack (⟨members, 0⟩ :: items) rest
      | none => none

/-- The class after its opening bracket. -/
def scanBrackets (f : Flags) (rest : List Char) : Option (Class × List Char) := do
  let (negated, items, rest) ← scanOpening f rest
  scanClass f (rest.length + 1) [.opened [] negated] items rest

/-! ### Items and groups -/

/-- What stands in a sequence: a pattern with the depth of its writing, or a directive. -/
inductive Item where
  | atom (p : Pattern) (depth : Nat)
  | directive

/-- The pattern of an item; a directive describes the empty text. -/
def Item.pattern : Item → Pattern
  | atom p _ => p
  | directive => .empty

/-- The depth of the writing of an item. -/
def Item.depth : Item → Nat
  | atom _ d => d
  | directive => 0

/-- The sequence of patterns. -/
def sequence : List Pattern → Pattern
  | [] => .empty
  | [p] => p
  | p :: rest => .seq p (sequence rest)

/-- The choice between patterns. -/
def choiceOf : List Pattern → Pattern
  | [] => .empty
  | [p] => p
  | p :: rest => .choice p (choiceOf rest)

/-- The greatest depth, one more when there are several parts. -/
def joinedDepth (depths : List Nat) : Nat :=
  match depths with
  | [] => 0
  | [d] => d
  | depths => 1 + depths.foldl max 0

/-- One alternative, from its items, which are listed from the last on. -/
def alternative (items : List Item) : Item :=
  .atom (sequence (items.reverse.map (·.pattern))) (joinedDepth (items.map (·.depth)))

/-- A group that has been opened: what was read before it, and the flags to return to. -/
structure Frame where
  branches : List Item
  items : List Item
  flags : Flags

/-- What has been read of a pattern: the open groups from the innermost on, the finished alternatives
of the current group and the items of the current alternative, both from the last on, the flags in
force and the names of groups. -/
structure State where
  frames : List Frame
  branches : List Item
  items : List Item
  flags : Flags
  names : List (List Char)

/-- The content of the current group. -/
def State.content (st : State) : Item :=
  let branches := (alternative st.items :: st.branches).reverse
  .atom (choiceOf (branches.map (·.pattern))) (joinedDepth (branches.map (·.depth)))

/-- Adds an item to the current alternative. -/
def State.push (st : State) (item : Item) : State := { st with items := item :: st.items }

/-- Adds a pattern of a single construct. -/
def State.pushAtom (st : State) (p : Pattern) : State := st.push (.atom p 0)

/-- Opens a group inside which other flags may be in force. -/
def State.openGroup (st : State) (inside : Flags) : State :=
  { st with
    frames := ⟨st.branches, st.items, st.flags⟩ :: st.frames
    branches := []
    items := []
    flags := inside }

/-- Closes the innermost group. -/
def State.closeGroup? (st : State) : Option State :=
  match st.frames with
  | [] => none
  | frame :: frames =>
    let content := st.content
    some
      { frames := frames
        branches := frame.branches
        items := .atom content.pattern (content.depth + 1) :: frame.items
        flags := frame.flags
        names := st.names }

/-- Begins the next alternative. -/
def State.nextBranch (st : State) : State :=
  { st with branches := alternative st.items :: st.branches, items := [] }

/-- Repeats the last item; a directive cannot be repeated. -/
def State.repeatLast? (st : State) (least : Nat) (most : Option Nat) : Option State :=
  match st.items with
  | .atom p depth :: rest => some { st with items := .atom (.repeated p least most) (depth + 1) :: rest }
  | _ => none

/-! ### Constructs -/

/-- May the character stand in the name of a group? -/
def isNameChar (first : Bool) (c : Char) : Bool :=
  c == '_' || alphabetic.has c ||
    (!first && (['.', '[', ']'].contains c || numbers.any (·.has c)))

/-- The name of a group up to the closing angle. -/
def scanGroupName (s : List Char) : Option (List Char × List Char) :=
  let name := s.takeWhile (· ≠ '>')
  match s.dropWhile (· ≠ '>') with
  | '>' :: rest =>
    match name with
    | [] => none
    | first :: others =>
      if isNameChar true first && others.all (isNameChar false) then some (name, rest) else none
  | _ => none

/-- The part of a text after an opening, if it begins with it. -/
def after? (opening : List Char) (s : List Char) : Option (List Char) :=
  if opening.isPrefixOf s then some (s.drop opening.length) else none

/-- A group with a name, which no other group has. -/
def openNamed (st : State) (s : List Char) : Option (State × List Char) := do
  let (name, rest) ← scanGroupName s
  guard (!st.names.contains name)
  return ({ st.openGroup st.flags with names := name :: st.names }, rest)

/-- A directive or a group after its opening parenthesis. -/
def scanGroup (st : State) (s : List Char) : Option (State × List Char) :=
  let s := skipLayout st.flags s
  if [['?', '='], ['?', '!'], ['?', '<', '='], ['?', '<', '!']].any (·.isPrefixOf s) then none
  else
    match after? ['?', 'P', '<'] s with
    | some rest => openNamed st rest
    | none =>
      match after? ['?', '<'] s with
      | some rest => openNamed st rest
      | none =>
        match after? ['?'] s with
        | some rest =>
          match scanFlags st.flags [] rest with
          | some (list, ':' :: rest) => some (st.openGroup list.flags, rest)
          | some (list, _ :: rest) =>
            if list.items.isEmpty then none
            else some ({ st with flags := list.flags }.push .directive, rest)
          | _ => none
        | none => some (st.openGroup st.flags, s)

/-- The digits of a number between braces, with layout after each. -/
def scanCountDigits (f : Flags) : Nat → Option Nat → List Char → Option (Nat × List Char)
  | 0, _, _ => none
  | fuel + 1, value, s =>
    match s with
    | c :: rest =>
      if c.isDigit then
        scanCountDigits f fuel (some (value.getD 0 * 10 + (c.toNat - '0'.toNat))) (skipLayout f rest)
      else value.map fun v => (v, s)
    | [] => value.map fun v => (v, [])

/-- A number between braces, with white space around it. -/
def scanCount (f : Flags) (s : List Char) : Option (Nat × List Char) := do
  let s := s.dropWhile isBlank
  let (value, rest) ← scanCountDigits f (s.length + 1) none s
  guard (fitsNat32 value)
  return (value, skipLayout f (rest.dropWhile isBlank))

/-- The bounds of a repetition after the opening brace, and the text after the closing one. -/
def scanBounds (f : Flags) (s : List Char) : Option (Nat × Option Nat × List Char) := do
  let (least, rest) ← scanCount f (skipLayout f s)
  match rest with
  | '\x7d' :: rest => return (least, some least, rest)
  | ',' :: rest =>
    match skipLayout f rest with
    | '\x7d' :: rest => return (least, none, rest)
    | rest =>
      let (most, rest) ← scanCount f rest
      guard (least ≤ most)
      match rest with
      | '\x7d' :: rest => return (least, some most, rest)
      | _ => none
  | _ => none

/-- The text after the question mark that asks for few rounds, if there is one. -/
def skipLazy (s : List Char) : List Char :=
  match s with
  | '?' :: rest => rest
  | s => s

/-- Adds what an escape stands for. -/
def pushEscape (st : State) : Escape → Option State
  | .literal c byte => (st.flags.literal? c byte).map fun s => st.pushAtom (.one s)
  | .anchor a => some (st.pushAtom (.anchor a))
  | .charSet s => some (st.pushAtom (.one s))

/-- Reads one construct. -/
def step (st : State) : List Char → Option (State × List Char)
  | [] => none
  | c :: rest =>
    if c = '(' then scanGroup st rest
    else if c = ')' then st.closeGroup?.map fun st => (st, rest)
    else if c = '|' then some (st.nextBranch, rest)
    else if c = '[' then
      (scanBrackets st.flags rest).map fun r => (st.push (.atom (.one r.1.members) r.1.depth), r.2)
    else if c = '?' then (st.repeatLast? 0 (some 1)).map fun st => (st, skipLazy rest)
    else if c = '*' then (st.repeatLast? 0 none).map fun st => (st, skipLazy rest)
    else if c = '+' then (st.repeatLast? 1 none).map fun st => (st, skipLazy rest)
    else if c = '\x7b' then do
      let (least, most, rest) ← scanBounds st.flags rest
      let st ← st.repeatLast? least most
      return (st, skipLazy (skipLayout st.flags rest))
    else if c = '\\' then do
      let (e, rest) ← scanEscape st.flags rest
      return (← pushEscape st e, rest)
    else if c = '.' then (st.flags.anyChar?).map fun s => (st.pushAtom (.one s), rest)
    else if c = '^' then some (st.pushAtom (.anchor (st.flags.edge true)), rest)
    else if c = '$' then some (st.pushAtom (.anchor (st.flags.edge false)), rest)
    else (st.flags.literal? c false).map fun s => (st.pushAtom (.one s), rest)

/-- Patterns are written at most this deep. -/
def depthLimit : Nat := 250

/-- Reads all constructs; each of them takes at least one character. -/
def run : Nat → State → List Char → Option State
  | 0, _, _ => none
  | fuel + 1, st, s =>
    match skipLayout st.flags s with
    | [] => some st
    | s =>
      match step st s with
      | some (st, rest) => run fuel st rest
      | none => none

/-- The pattern that the characters write. -/
def parseChars? (ignoreCase : Bool) (s : List Char) : Option Pattern :=
  match run (s.length + 1) ⟨[], [], [], Flags.initial ignoreCase, []⟩ s with
  | some st =>
    let content := st.content
    if st.frames.isEmpty && content.depth ≤ depthLimit then some content.pattern else none
  | none => none

/-- The pattern that a text writes. -/
def parse? (ignoreCase : Bool) (s : String) : Option Pattern := parseChars? ignoreCase s.toList

/-- Does the text write a pattern? -/
def isValid (s : String) : Bool := (parse? false s).isSome

end CardQuery.Regex
