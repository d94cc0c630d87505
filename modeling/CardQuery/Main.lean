/-
**The program.**

This module joins the program to the machine: it reads files, prints, and ends with a number.
-/

import CardQuery.CommandLine.Run
import CardQuery.Game.Registry

set_option autoImplicit false

namespace CardQuery

/-- What the machine says when a file cannot be read. -/
def FileContent.ofError : IO.Error → FileContent
  | .inappropriateType _ 21 _ => .directory
  | .inappropriateType _ _ _ => .notDirectory
  | _ => .missing

/-- The disk of the machine. -/
def machineDisk : Disk IO where
  read path := do
    match ← (IO.FS.readBinFile path).toBaseIO with
    | .error e => return .ofError e
    | .ok bytes =>
      match String.fromUTF8? bytes with
      | some text => return .text text
      | none => return .notText

/-- Prints an outcome. -/
def CommandLine.Outcome.print : CommandLine.Outcome → IO Unit
  | .done lines => lines.forM fun line => IO.println line
  | .failed (.told message) => IO.eprintln ("Error: " ++ message)
  | .failed .aborted => IO.eprintln SearchFailure.aborted.message
  | .usage => CommandLine.helpLines.forM fun line => IO.eprintln line

/-- The number that stands for a program that has been aborted. -/
def abortedCode : Nat := 134

/-- Runs the program on the machine. -/
def runHere (arguments : List String) : IO UInt32 := do
  match Registry.games with
  | .error _ =>
    IO.eprintln "Error: Failed to build game models"
    return 1
  | .ok registry =>
    let outcome ← CommandLine.run registry machineDisk arguments
    outcome.print
    return (outcome.exitCode?.getD abortedCode).toUInt32

end CardQuery

/-- Runs the program. -/
def main (arguments : List String) : IO UInt32 := CardQuery.runHere arguments
