import Compendium.Scan
import Compendium.Scope

/-!
# Aggregation

An aggregation writes a whole document: the header, then what its path arguments lead to, one
after the other, and at the end it flushes the sink.
-/

namespace Compendium.Scan

section

variable (judge : Judge) (d : Disk) (scope : Scope)

/-- Scan what a path argument leads to: a directory, or a file in the context of the directory
that holds it. -/
def argumentBy (path : Path) : Action Scan Unit := do
  let seen ← seenDisk d
  if seen.isDir path then
    let above ← Action.ofExcept (scope.contextAt path)
    directoryBy judge d path above
  else if seen.isFile path then
    let above ← Action.ofExcept (scope.contextAt (path.parent?.getD ⟨""⟩))
    fileBy judge d path above
  else Action.tell (.noSuchArgument path)

/-- Scan what path arguments lead to, in order. -/
def argumentsBy : List Path → Action Scan Unit
  | [] => return
  | path :: rest => do
    argumentBy judge d scope path
    argumentsBy rest

/-- Write the document of path arguments.  The file at `excluded` is kept out of it. -/
def aggregateBy (paths : List Path) (excluded : Option Path) : Action Scan Report := do
  sinking Sink.begin
  match excluded with
  | some path => exclude d path
  | none => pure ()
  argumentsBy judge d scope paths
  let report := (← Action.state).report
  sinking Sink.finish
  Action.tell
    (.aggregated report.included.length report.skipped.length report.failures.length)
  return report

end

/-- Scan what a path argument leads to, by the patterns. -/
def argument (d : Disk) (scope : Scope) (path : Path) : Action Scan Unit :=
  argumentBy byPatterns d scope path

/-- Scan what path arguments lead to, by the patterns. -/
def arguments (d : Disk) (scope : Scope) (paths : List Path) : Action Scan Unit :=
  argumentsBy byPatterns d scope paths

/-- Write the document of path arguments, by the patterns. -/
def aggregate (d : Disk) (scope : Scope) (paths : List Path) (excluded : Option Path) :
    Action Scan Report :=
  aggregateBy byPatterns d scope paths excluded

end Compendium.Scan
