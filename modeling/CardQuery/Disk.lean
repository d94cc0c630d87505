/-
**Files.**

What the program needs of a disk is small: to know what is found at a path.  The disk is a parameter,
so that the program runs on a real one as on a list of files.

Main definitions:

* `FileContent`, `Disk` — what is found at a path, and disks;
* `Disk.readText` — the text of a file, or the reason why there is none;
* `Disk.hasDirectory`, `Disk.parent` — whether a path is a directory, and the directory of a path.
-/

import CardQuery.Store.Page

set_option autoImplicit false

namespace CardQuery

/-- What is found at a path. -/
inductive FileContent where
  | text (content : String)
  | missing
  | notDirectory
  | directory
  | notText
deriving DecidableEq, Repr, Inhabited

/-- A disk. -/
structure Disk (m : Type → Type) where
  read : String → m FileContent

namespace FileContent

/-- The text of a file, or the reason why there is none. -/
def text? (path : String) : FileContent → Except StoreError String
  | text content => .ok content
  | missing =>
    .error ⟨["failed to open file `" ++ path ++ "`: No such file or directory (os error 2)"]⟩
  | notDirectory =>
    .error ⟨["failed to open file `" ++ path ++ "`: Not a directory (os error 20)"]⟩
  | directory =>
    .error ⟨["failed to read from file `" ++ path ++ "`: Is a directory (os error 21)"]⟩
  | notText =>
    .error ⟨["failed to read from file `" ++ path ++ "`: stream did not contain valid UTF-8"]⟩

end FileContent

namespace Disk

variable {m : Type → Type} [Monad m]

/-- The text of a file, or the reason why there is none. -/
def readText (disk : Disk m) (path : String) : m (Except StoreError String) := do
  return (← disk.read path).text? path

/-- Is there a directory at the path? -/
def hasDirectory (disk : Disk m) (path : String) : m Bool := do
  return (← disk.read path) == .directory

/-- The directory of a path; without a slash it is the current one. -/
def parent (path : String) : String :=
  let back := path.toList.reverse.dropWhile (· != '/')
  match back with
  | [] => "."
  | ['/'] => "/"
  | _ :: rest => String.ofList rest.reverse

end Disk

end CardQuery
