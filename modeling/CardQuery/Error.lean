/-
**Errors.**

A token that cannot be used gives a search error and leaves the rest of its query alone.  A whole
query fails only when its model is unknown or the store does.  Models are checked when they are
built, and the first thing that is wrong with one is its model error.

Main definitions:

* `Reason` — why a value does not suit its command;
* `SearchError`, `SearchFailure`, `ModelError` — the errors of tokens, queries and models, each with
  its `message`.
-/

import CardQuery.Token.Scanner

set_option autoImplicit false

namespace CardQuery

/-- Why a value does not suit its command. -/
inductive Reason where
  | unknownModifier (name : String)
  | malformedRegex
  | qualifierNotAllowed (qualifier : Qualifier) (operator : Operator)
  | expectedTemplate (templates : List String)
  | unknownPart (name : String)
  | regexWithOperator (operator : Operator)
  | wordWithOperator (word : String) (operator : Operator)
  | expectedNumber
  | expectedValue
  | unknownValue (value : String)
  | expectedOneOf (names : List String)
  | notALetter (letter : Char) (alphabet : List Char)
  | countTooLarge
  | expectedLetters
  | sortCombined
  | secondSort
deriving DecidableEq, Repr

/-- The wording of a reason. -/
def Reason.text : Reason → String
  | unknownModifier name => "unknown modifier " ++ name
  | malformedRegex => "regex parse error"
  | qualifierNotAllowed q op => "qualifier " ++ q.sign ++ " is not allowed with " ++ op.sign
  | expectedTemplate templates => "expected " ++ String.intercalate " or " templates
  | unknownPart name => "unknown part " ++ name
  | regexWithOperator op => "regular expressions cannot be used with " ++ op.sign
  | wordWithOperator word op => word ++ " cannot be used with " ++ op.sign
  | expectedNumber => "expected a number"
  | expectedValue => "expected a value"
  | unknownValue value => "unknown value " ++ value
  | expectedOneOf names => "expected one of " ++ String.intercalate ", " names
  | notALetter letter alphabet =>
    "\x27" ++ String.singleton letter ++ "\x27 is not one of " ++ String.ofList alphabet
  | countTooLarge => "number too large to fit in target type"
  | expectedLetters => "expected at least one value"
  | sortCombined => "sort directives cannot be combined"
  | secondSort => "only one sort order is allowed"

/-- What is wrong with one token. -/
inductive SearchError where
  | malformed (message : String) (span : Span)
  | unknownCommand (name : String)
  | invalidQuery (field value reason : String)
  | regexDisabled (field value : String)
  | operatorUnsupported (field operator : String)
deriving DecidableEq, Repr

namespace SearchError

/-- The error of a value that does not suit the command with the given id. -/
def invalid (field value : String) (reason : Reason) : SearchError :=
  invalidQuery field value reason.text

/-- The error of a piece that is no token. -/
def ofFault (fault : Fault) (span : Span) : SearchError := malformed fault.message span

/-- The name of the kind of error. -/
def kind : SearchError → String
  | malformed _ _ => "syntax-error"
  | unknownCommand _ => "unknown-command"
  | invalidQuery _ _ _ => "invalid-query"
  | regexDisabled _ _ => "regex-disabled"
  | operatorUnsupported _ _ => "operator-unsupported"

/-- The id of the command that refused the token, if one had been found. -/
def field? : SearchError → Option String
  | malformed _ _ => none
  | unknownCommand _ => none
  | invalidQuery field _ _ => some field
  | regexDisabled field _ => some field
  | operatorUnsupported field _ => some field

/-- The wording of an error. -/
def message : SearchError → String
  | malformed message span =>
    "Syntax error at " ++ Nat.repr span.start ++ ".." ++ Nat.repr span.stop ++ ": " ++ message
  | unknownCommand name => "Unknown command: " ++ name
  | invalidQuery field value reason =>
    "Invalid query for " ++ field ++ " (" ++ value ++ "): " ++ reason
  | regexDisabled field value =>
    "Regular expressions are not allowed for " ++ field ++ ": " ++ value
  | operatorUnsupported field operator =>
    "Operator " ++ operator ++ " is not supported by " ++ field

end SearchError

/-- Why a query has no answer: a store gives its causes from the outermost on, or gives up. -/
inductive SearchFailure where
  | unknownModel (id : String)
  | storeUnavailable (causes : List String)
  | aborted
deriving DecidableEq, Repr

/-- The wording of a failure. -/
def SearchFailure.message : SearchFailure → String
  | unknownModel id => "Unknown model: " ++ id
  | storeUnavailable causes => "Store unavailable: " ++ String.intercalate ": " causes
  | aborted => "user-provided comparison function does not correctly implement a total order"

/-- What is wrong with a model or with one of its commands. -/
inductive ModelError where
  | emptyId
  | invalidKey (key : String)
  | invalidPattern (command reason : String)
  | duplicateName (model name existing : String)
  | duplicateModel (id : String)
  | missingRawCommand (id : String)
  | unknownPatternPart (command part : String)
  | bitsetTooWide (command : String) (letters most : Nat)
deriving DecidableEq, Repr

namespace ModelError

/-- The name of the kind of error. -/
def kind : ModelError → String
  | emptyId => "empty-id"
  | invalidKey _ => "invalid-key"
  | invalidPattern _ _ => "invalid-pattern"
  | duplicateName _ _ _ => "duplicate-name"
  | duplicateModel _ => "duplicate-model"
  | missingRawCommand _ => "missing-raw-command"
  | unknownPatternPart _ _ => "unknown-pattern-part"
  | bitsetTooWide _ _ _ => "bitset-too-wide"

/-- The wording of an error. -/
def message : ModelError → String
  | emptyId => "Command id must not be empty"
  | invalidKey key => "Invalid storage key: " ++ key
  | invalidPattern command reason => "Invalid pattern for " ++ command ++ ": " ++ reason
  | duplicateName model name existing =>
    "Name " ++ name ++ " in model " ++ model ++ " is already used by command " ++ existing
  | duplicateModel id => "Model already registered: " ++ id
  | missingRawCommand id => "Raw command " ++ id ++ " is not part of the model"
  | unknownPatternPart command part =>
    "Pattern of " ++ command ++ " references unknown command " ++ part
  | bitsetTooWide command letters most =>
    "Bitset " ++ command ++ " has " ++ Nat.repr letters ++ " letters, at most " ++ Nat.repr most
      ++ " are supported"

end ModelError

end CardQuery
