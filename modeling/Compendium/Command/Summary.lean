import Compendium.Command.Table
import Compendium.Report

/-!
# Summaries

What the command writes about a run that went well: the failures that were noted, a table of
the files in the document if one is asked for, and counts.
-/

namespace Compendium.Command.Summary

/-- The failures that were noted. -/
def warnings (failures : List Failure) : String :=
  if failures.isEmpty then ""
  else
    "\nWarning: " ++ toString failures.length ++ " path(s) could not be processed:\n"
      ++ String.join (failures.map fun failure => "  - " ++ failure.message ++ "\n")

/-- The titles of the table of files. -/
def titles : List Cell :=
  ["Path", "Kind", "Lines", "Removed", "Rules"].map fun title => .ofText title false

/-- The row of a file in the table. -/
def row : Path × Inclusion → List Cell
  | (path, .text lines removed rules) =>
    [.ofText path.text false, .ofText "text" false, .ofText (toString lines) true,
      .ofText (toString removed) true, .ofText (String.intercalate ", " rules) false]
  | (path, .binary size) =>
    [.ofText path.text false, .ofText "binary" false,
      .ofText (toString size ++ " bytes") true, .ofText "" false, .ofText "" false]

/-- The table of the files in the document. -/
def table (report : Report) : String :=
  if report.included.isEmpty then "\n(No files included)\n"
  else "\n Included Files \n" ++ Table.draw titles (report.included.map row) ++ "\n"

/-- A count with its label, which is filled up to sixteen columns. -/
def count (label : String) (n : Nat) : String :=
  label ++ String.ofList (List.replicate (16 - label.length) ' ') ++ " " ++ toString n ++ "\n"

/-- The counts of a run. -/
def counts (report : Report) : String :=
  count "Included:" report.included.length ++ count "Skipped:" report.skipped.length
    ++ count "Lines removed:" report.removedLines

/-- All that is written about a run. -/
def text (report : Report) (withTable : Bool) : String :=
  warnings report.failures ++ (if withTable then table report else "") ++ counts report

/-- The line that names the document. -/
def created (path : Path) : String := "✅ Markdown file created: " ++ path.text ++ "\n"

end Compendium.Command.Summary
