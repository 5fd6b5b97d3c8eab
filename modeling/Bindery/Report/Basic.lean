import Bindery.Display.Page
import Bindery.Value.Basic

/-!
Contract: the lines of a report, and why a report cannot be shown.

Owns:
- `ReportFault`: a text that cannot be shown, and data that do not have the form that the report of
  their operation needs;
- one printed line, and the line of a field.
-/

namespace Bindery

inductive ReportFault where
  | display (fault : DisplayFault)
  | notMapping
  | notIterable
  | notNumber
deriving DecidableEq, Repr

namespace Report

def ofDisplay {α : Type} (answer : Except DisplayFault α) : Except ReportFault α :=
  answer.mapError .display

def say (parts : List Display.Part) : Except ReportFault String :=
  ofDisplay (Display.print Display.reportWidth parts)

def emptyLine : String := "\n"

def pathKeys : List String := ["path", "source", "target"]

def field (key : String) (value : Value) : Except ReportFault String :=
  let style := if pathKeys.contains key then some "book.path" else none
  say [.plain ("  " ++ key ++ ": ") (some "book.key"), .plain value.display style]

def fields : Entries → Except ReportFault String
  | [] => .ok ""
  | (key, value) :: rest => do
      let first ← field key value
      let others ← fields rest
      return first ++ others

def valueOr (entries : Entries) (key : String) (other : Value) : Value :=
  (entries.find? key).getD other

end Report

end Bindery
