import Bindery.Display.Table
import Bindery.Path
import Bindery.Report.Basic

/-!
Contract: the report of what a build made.

Owns: the table with one row for each source (its kind, its name, whether it was made again, and on
request its output), and the line that counts. Names and outputs may hold tags.
-/

namespace Bindery.Report

/-- The kinds of sources with the keys of their lists. -/
def kindKeys : List (String × String) :=
  [("diagram", "diagrams"), ("fragment", "fragments"), ("document", "documents")]

/-- The items of a value that is gone through. -/
def itemsOf : Value → Except ReportFault (List Value)
  | .list items => .ok items
  | .str text => .ok (text.toList.map fun c => .str (String.ofList [c]))
  | .map entries => .ok (entries.map fun entry => .str entry.1)
  | _ => .error .notIterable

def rowsOf (entries : Entries) :
    List (String × String) → Except ReportFault (List (String × Value))
  | [] => .ok []
  | (kind, key) :: rest => do
      let items ← itemsOf (valueOr entries key (.list []))
      let others ← rowsOf entries rest
      return items.map (fun item => (kind, item)) ++ others

def entriesOf : Value → Except ReportFault Entries
  | .map entries => .ok entries
  | _ => .error .notMapping

def shown (text : String) : Except ReportFault Display.StyledText :=
  ofDisplay (Display.Markup.read text.toList)

def wasRebuilt (entries : Entries) : Bool :=
  (valueOr entries "rebuilt" .null).isTruthy

def rowCells (verbose : Bool) (kind : String) (entries : Entries) :
    Except ReportFault (List Display.StyledText) := do
  let source ← shown (Path.ofString (valueOr entries "source" (.str "")).display).name
  let state := if wasRebuilt entries then "rebuilt" else "current"
  let output ←
    if verbose then (shown (valueOr entries "output" (.str "")).display).map fun text => [text]
    else pure []
  return [.plain kind.toList, source, .plain state.toList] ++ output

def rowEntries : List (String × Value) → Except ReportFault (List (String × Entries))
  | [] => .ok []
  | (kind, item) :: rest => do
      let entries ← entriesOf item
      let others ← rowEntries rest
      return (kind, entries) :: others

def allCells (verbose : Bool) :
    List (String × Entries) → Except ReportFault (List (List Display.StyledText))
  | [] => .ok []
  | (kind, entries) :: rest => do
      let cells ← rowCells verbose kind entries
      let others ← allCells verbose rest
      return cells :: others

def artifactColumns (verbose : Bool) : List Display.Column :=
  let always := [⟨"Kind".toList, false⟩, ⟨"Source".toList, true⟩, ⟨"State".toList, false⟩]
  if verbose then always ++ [⟨"Output".toList, true⟩] else always

/-- The table of rows below an empty line; nothing if there are none. -/
def sourceTable (verbose : Bool) (rows : List (String × Entries)) :
    Except ReportFault String := do
  if rows.isEmpty then
    return ""
  else
    let table : Display.Table := ⟨artifactColumns verbose, ← allCells verbose rows⟩
    let lines ← ofDisplay (table.render Display.reportWidth)
    return emptyLine ++ (← ofDisplay (Display.showLines Display.reportWidth lines))

def countLine (rows : List (String × Entries)) : Except ReportFault String :=
  let rebuilt := rows.countP fun row => wasRebuilt row.2
  say [.markup s!"\n{rebuilt} of {rows.length} artifacts rebuilt"]

def artifacts (verbose : Bool) (data : Entries) : Except ReportFault String := do
  let rows ← rowEntries (← rowsOf data kindKeys)
  let table ← sourceTable verbose rows
  let count ← countLine rows
  return table ++ count

end Bindery.Report
