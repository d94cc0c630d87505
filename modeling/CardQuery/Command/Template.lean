/-
**Templates of composite values.**

A template is literal text with placeholders, each of which names a part of the value.  A value fits
a template when it is the template with every placeholder replaced by a text that is not empty and
holds no line end.  Where there are several ways to do this, the first part is as short as possible,
then the second, and so on.

Main definitions:

* `Template`, `Template.read` — a template, and reading one from `\x7b\x7bname\x7d\x7d` form;
* `Template.split?` — the parts of a value;
* `Composite`, `Composite.captures` — the templates of a command, of which the first that fits
  counts.
-/

import CardQuery.KeyedList
import CardQuery.Unicode.Blank

set_option autoImplicit false

namespace CardQuery

open Unicode (isBlank trimmed)

/-- A template: the text before its first placeholder, and the placeholders, each with the text
after it. -/
structure Template where
  source : String
  opening : List Char
  places : List (String × List Char)
deriving DecidableEq, Repr, Inhabited

/-- What is wrong with the templates of a command. -/
inductive TemplateError where
  | noTemplate
  | repeatedPlace (name source : String)
  | noPlace (source : String)
deriving DecidableEq, Repr

/-- The wording of an error. -/
def TemplateError.message : TemplateError → String
  | noTemplate => "at least one template is required"
  | repeatedPlace name source => "placeholder " ++ name ++ " repeated in " ++ source
  | noPlace source => "template " ++ source ++ " has no placeholders"

namespace Template

/-! ### Reading templates -/

/-- May the character open the name of a part? -/
def isNameStart (c : Char) : Bool := c.isAlpha || c == '_'

/-- May the character stand in the name of a part? -/
def isNameChar (c : Char) : Bool := c.isAlphanum || c == '_'

/-- The placeholder at the head of a text: a name in doubled braces, with white space around it. -/
def scanPlace : List Char → Option (String × List Char)
  | '\x7b' :: '\x7b' :: rest =>
    let inside := rest.dropWhile isBlank
    match inside with
    | [] => none
    | c :: _ =>
      if !isNameStart c then none
      else
        match (inside.dropWhile isNameChar).dropWhile isBlank with
        | '\x7d' :: '\x7d' :: rest => some (String.ofList (inside.takeWhile isNameChar), rest)
        | _ => none
  | _ => none

/-- The literal text up to the first placeholder, and the placeholders with the texts after them. -/
def scanParts : Nat → List Char → List Char × List (String × List Char)
  | 0, s => (s, [])
  | _ + 1, [] => ([], [])
  | fuel + 1, c :: s =>
    match scanPlace (c :: s) with
    | some (name, rest) =>
      let (literal, places) := scanParts fuel rest
      ([], (name, literal) :: places)
    | none =>
      let (literal, places) := scanParts fuel s
      (c :: literal, places)

/-- The first name that a list holds a second time. -/
def firstRepeated? : List String → List String → Option String
  | _, [] => none
  | seen, name :: rest =>
    if seen.contains name then some name else firstRepeated? (name :: seen) rest

/-- Reads a template; it has placeholders, and no two of one name. -/
def read (source : String) : Except TemplateError Template :=
  let s := source.toList
  let (opening, places) := scanParts (s.length + 1) s
  match firstRepeated? [] (places.map (·.1)) with
  | some name => .error (.repeatedPlace name source)
  | none => if places.isEmpty then .error (.noPlace source) else .ok ⟨source, opening, places⟩

/-! ### Splitting values -/

/-- The text after a literal, if it begins with it. -/
def afterLiteral? : List Char → List Char → Option (List Char)
  | [], s => some s
  | c :: literal, d :: s => if c = d then afterLiteral? literal s else none
  | _ :: _, [] => none

/-- The shortest text without line end, of one character at least, after which the rest can be
continued. -/
def shortest {α : Type} (continued : List Char → Option α) : List Char → Option (List Char × α)
  | [] => none
  | c :: rest =>
    if c = '\n' then none
    else
      match continued rest with
      | some a => some ([c], a)
      | none => (shortest continued rest).map fun r => (c :: r.1, r.2)

/-- The texts at the placeholders, when the whole text can be split. -/
def splitPlaces? : List (String × List Char) → List Char → Option (List (String × List Char))
  | [], s => if s.isEmpty then some [] else none
  | (name, literal) :: places, s =>
    (shortest (fun rest => (afterLiteral? literal rest).bind (splitPlaces? places)) s).map
      fun r => (name, r.1) :: r.2

/-- The texts that a value has at the placeholders of a template. -/
def split? (t : Template) (value : List Char) : Option (List (String × List Char)) :=
  (afterLiteral? t.opening value).bind (splitPlaces? t.places)

end Template

/-- The templates of a composite command, and the names of their parts in order of first
occurrence. -/
structure Composite where
  templates : List Template
  parts : List String
deriving DecidableEq, Repr, Inhabited

namespace Composite

/-- Appends the names that a list does not hold yet. -/
def withNames (names : List String) : List String → List String
  | [] => names
  | name :: rest =>
    if names.contains name then withNames names rest else withNames (names ++ [name]) rest

/-- Reads the templates of a command, of which there is at least one. -/
def read (sources : List String) : Except TemplateError Composite := do
  if sources.isEmpty then throw .noTemplate
  let templates ← sources.mapM Template.read
  return ⟨templates, withNames [] (templates.flatMap fun t => t.places.map (·.1))⟩

/-- The parts of a value by the first template that it fits, in the order of the parts of the
command and without white space around them. -/
def captures (c : Composite) (value : String) : Option (KeyedList String) :=
  (c.templates.findSome? fun t => t.split? value.toList).map fun found =>
    c.parts.filterMap fun part =>
      (found.find? fun e => e.1 == part).map fun e => (part, trimmed (String.ofList e.2))

end Composite

end CardQuery
