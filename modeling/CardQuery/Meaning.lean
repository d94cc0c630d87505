/-
**What tokens mean.**

Each kind of command turns its value into a condition on cards.  Negation is applied last and once,
to the condition of the whole token.  A command that orders the results gives no condition.

Main definitions:

* `Operator.comparison` — the comparison that an operator asks for;
* `Binding.condition` — the condition of a bound value;
* `Meaning`, `Argument.meaning` — what a token does to the results.
-/

import CardQuery.Argument
import CardQuery.Predicate.Basic

set_option autoImplicit false

namespace CardQuery

open Unicode (loweredText trimmed)

/-- The comparison that an operator asks for. -/
def Operator.comparison : Operator → Comparison
  | has => .equal
  | equals => .equal
  | less => .less
  | atMost => .atMost
  | greater => .greater
  | atLeast => .atLeast

/-! ### Text -/

/-- The regular expression that describes only whole texts. -/
def wholeText (source : String) : String := "^(?:" ++ source ++ ")$"

/-- A condition on the text at a key. -/
def Binding.textCondition (b : Binding) (key : String) : Except SearchError Predicate :=
  match b.operand, b.operator with
  | .text s, .has => .ok (.contains key s)
  | .regex source, .has => .ok (.regex key source)
  | .text s, .equals => .ok (.textEquals key s)
  | .regex source, .equals => .ok (.regex key (wholeText source))
  | .text s, op => .ok (.compare key op.comparison (.text s))
  | .regex source, op => .error (.invalid b.command.id source (.regexWithOperator op))

/-! ### Literal values -/

namespace Binding

/-- The literal value without white space around it; a regular expression is none. -/
def literal (b : Binding) : Except SearchError String :=
  match b.operand with
  | .text s => .ok (trimmed s)
  | .regex source => .error (.regexDisabled b.command.id source)

/-- The error of a value that does not suit the command. -/
def refuse {α : Type} (b : Binding) (raw : String) (reason : Reason) : Except SearchError α :=
  .error (.invalid b.command.id raw reason)

end Binding

/-- The number that a value is: a whole one, or a finite double where such are allowed. -/
def readScalar? (allowReal : Bool) (raw : String) : Option Scalar :=
  match readInt64? raw.toList with
  | some i => some (.integer i)
  | none =>
    if allowReal then
      match Double.read? raw.toList with
      | some (.finite x) => some (.real x)
      | _ => none
    else none

/-- A condition on the number at the key. -/
def Binding.numberCondition (b : Binding) (allowReal : Bool) (raw : String) :
    Except SearchError Predicate :=
  match readScalar? allowReal raw with
  | some value => .ok (.compare b.key b.operator.comparison value)
  | none => b.refuse raw .expectedNumber

/-- A condition on the list of values at the key. -/
def Binding.setCondition (b : Binding) (values : ValueSet) (raw : String) :
    Except SearchError Predicate :=
  if raw.isEmpty then b.refuse raw .expectedValue
  else
    let value := values.canonical raw
    if !values.accepts value then b.refuse raw (.unknownValue value)
    else
      match b.operator with
      | .has => .ok (.hasElement b.key value)
      | .equals => .ok (.soleElement b.key value (!values.countDuplicates))
      | op => .error (.operatorUnsupported b.command.id op.sign)

/-! ### Sets of letters -/

/-- The number of ones among the bits of a number. -/
def bitCount (n : Nat) : Nat := if n = 0 then 0 else n % 2 + bitCount (n / 2)

/-- Exactly the letters of the mask. -/
def exactly (key : String) (mask : Nat) : Predicate := .compare key .equal (.integer mask)

/-- All letters of the mask, and perhaps others. -/
def supersetOf (key : String) (mask : Nat) : Predicate := .bitsAllSet key mask

/-- No letters but those of the mask; `full` has all letters. -/
def subsetOf (key : String) (full mask : Nat) : Predicate := .bitsAllClear key (full ^^^ (full &&& mask))

/-- A condition on a set of letters.  To have no letters is to have none. -/
def maskCondition (key : String) (full mask : Nat) : Operator → Predicate
  | .equals => exactly key mask
  | .has => if mask = 0 then exactly key 0 else supersetOf key mask
  | .atLeast => supersetOf key mask
  | .greater => .conjunction [supersetOf key mask, (exactly key mask).negate]
  | .atMost => subsetOf key full mask
  | .less => .conjunction [subsetOf key full mask, (exactly key mask).negate]

/-- A condition on the number of letters: the list of all sets that meet it. -/
def countCondition (key : String) (full count : Nat) (op : Operator) : Predicate :=
  .inList key <|
    ((List.range (full + 1)).filter fun mask => op.comparison.holds (Ord.compare (bitCount mask) count)).map
      fun (mask : Nat) => .integer mask

/-- A condition on the set of letters at the key. -/
def Binding.bitsetCondition (b : Binding) (alphabet : Alphabet) (raw : String) :
    Except SearchError Predicate :=
  match alphabet.read raw with
  | .error reason => b.refuse raw reason
  | .ok (.mask mask) => .ok (maskCondition b.key alphabet.fullMask mask b.operator)
  | .ok (.count count) => .ok (countCondition b.key alphabet.fullMask count b.operator)

/-! ### Whole and half numbers -/

/-- The stored text of a value that varies. -/
def varyingLabel : String := "*"

/-- One of the labels. -/
def oneOf (key : String) (labels : List String) : Predicate := .inList key (labels.map .text)

/-- Some value, but none of the labels. -/
def offLadder (key : String) (steps : List Step) : Predicate :=
  .conjunction [.present key, (oneOf key (steps.map (·.label))).negate]

/-- A word can only be compared for equality. -/
def Binding.wordCondition (b : Binding) (raw word : String) (varying : Option Predicate) :
    Except SearchError Predicate :=
  match b.operator with
  | .has => .ok (varying.getD (oneOf b.key [word]))
  | .equals => .ok (oneOf b.key [word])
  | op => b.refuse raw (.wordWithOperator word op)

/-- A condition on the label at the key. -/
def Binding.halfNumberCondition (b : Binding) (range : HalfRange) (raw : String) :
    Except SearchError Predicate :=
  if raw = varyingLabel then b.wordCondition raw varyingLabel (some (offLadder b.key range.ladder))
  else
    match range.sentinel? raw with
    | some word => b.wordCondition raw word none
    | none =>
      match HalfNumber.read? raw with
      | none => b.refuse raw .expectedNumber
      | some target =>
        .ok <| oneOf b.key <|
          (range.ladder.filter fun step => b.operator.comparison.holds (step.value.order target)).map
            (·.label)

/-! ### Whole tokens -/

/-- The name to order by, and whether a sign after it reverses the order. -/
def splitDirection (raw : String) : String × Bool :=
  match raw.toList.reverse with
  | '-' :: name => (String.ofList name.reverse, true)
  | '+' :: name => (String.ofList name.reverse, false)
  | _ => (raw, false)

/-- The order that a value asks for. -/
def Binding.sortKey (b : Binding) (keys : KeyedList String) : Except SearchError SortKey := do
  let raw ← b.literal
  let (name, descending) := splitDirection raw
  match KeyedList.find? keys (loweredText name) with
  | some key => return ⟨key, descending⟩
  | none => b.refuse raw (.expectedOneOf keys.keys)

/-- The condition of a bound value; a composite value has no condition of its own. -/
def Binding.condition (b : Binding) : Except SearchError Predicate :=
  match b.command.kind with
  | .text => b.textCondition b.key
  | .number allowReal => do b.numberCondition allowReal (← b.literal)
  | .set values => do b.setCondition values (← b.literal)
  | .bitset alphabet => do b.bitsetCondition alphabet (← b.literal)
  | .halfNumber range => do b.halfNumberCondition range (← b.literal)
  | .composite _ => .ok .everything
  | .unrestricted targets => (targets.mapM b.textCondition).map .disjunction
  | .order _ => b.refuse b.operand.content .sortCombined

/-- The condition of a token: for a composite value, that of all its parts together. -/
def Argument.condition (a : Argument) : Except SearchError Predicate :=
  match a.command.kind with
  | .composite _ => (a.parts.mapM Binding.condition).map .conjunction
  | _ => a.toBinding.condition

/-- What a token does to the results: it filters them, or it orders them. -/
inductive Meaning where
  | filter (p : Predicate)
  | sort (key : SortKey)
deriving Repr

/-- What a token does to the results, or why it can do nothing. -/
def Argument.meaning (a : Argument) : Except SearchError Meaning :=
  match a.command.kind with
  | .order keys => (a.toBinding.sortKey keys).map .sort
  | _ => a.condition.map fun p => .filter (if a.isNegated then p.negate else p)

end CardQuery
