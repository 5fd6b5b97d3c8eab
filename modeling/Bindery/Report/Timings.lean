import Bindery.Report.Basic

/-!
Contract: the report of a run's remarks, above all of its timed phases.

Owns:
- the tree of phases: one line for each with its duration, name and notes, four columns deeper for
  every level;
- the other remarks, one line each.

Names, notes and remarks may hold tags.
-/

namespace Bindery.Report

def numberOf : Value → Option Number.Binary64
  | .bool value => some (.ofInt (if value then 1 else 0))
  | .int value => some (.ofInt value)
  | .float value => some value
  | _ => none

/-- Puts blanks in front of a text up to a width. -/
def alignRight (width : Nat) (text : String) : String :=
  String.ofList (List.replicate (width - text.length) ' ') ++ text

def durationStyle (duration : Number.Binary64) : String :=
  if (Number.Binary64.ofInt 10000).lt duration then "bold red"
  else if (Number.Binary64.ofInt 1000).lt duration then "yellow"
  else "dim"

def notesText (entries : Entries) : Except ReportFault String :=
  let notes := valueOr entries "annotations" .null
  if notes.isTruthy then
    match notes with
    | .map members =>
        let shown := members.map fun (key, value) => key ++ "=" ++ value.display
        .ok ("  (" ++ ", ".intercalate shown ++ ")")
    | _ => .error .notMapping
  else .ok ""

def phaseLine (indent : Nat) (entries : Entries) : Except ReportFault String :=
  match numberOf (valueOr entries "duration_ms" (.float (.ofInt 0))) with
  | none => .error .notNumber
  | some duration => do
      let style := durationStyle duration
      let notes ← notesText entries
      say [.markup (String.ofList (List.replicate indent ' ') ++ "[" ++ style ++ "]" ++
        alignRight 10 (duration.fixed 2) ++ "ms[/" ++ style ++ "]  " ++
        (valueOr entries "name" (.str "?")).display ++ notes)]

mutual

/-- The lines of a phase and of those inside it. -/
def phaseTree (indent : Nat) : Value → Except ReportFault String
  | .map entries => do
      let line ← phaseLine indent entries
      let below ← childrenOf (indent + 4) entries
      return line ++ below
  | _ => .error .notMapping

def childrenOf (indent : Nat) : List (String × Value) → Except ReportFault String
  | [] => .ok ""
  | (key, value) :: rest =>
      if key = "children" then phaseForest indent value else childrenOf indent rest

def phaseForest (indent : Nat) : Value → Except ReportFault String
  | .list items => phaseList indent items
  | .str text => if text.isEmpty then .ok "" else .error .notMapping
  | .map entries => if entries.isEmpty then .ok "" else .error .notMapping
  | _ => .error .notIterable

def phaseList (indent : Nat) : List Value → Except ReportFault String
  | [] => .ok ""
  | item :: rest => do
      let first ← phaseTree indent item
      let others ← phaseList indent rest
      return first ++ others

end

def remarkLines : Entries → Except ReportFault String
  | [] => .ok ""
  | (key, value) :: rest => do
      let first ←
        if key = "telemetry" then phaseTree 4 value
        else say [.markup ("    " ++ key ++ ": " ++ value.display)]
      let others ← remarkLines rest
      return first ++ others

/-- The block of a run's remarks; nothing if there are none. -/
def remarkBlock (remarks : Option Entries) : Except ReportFault String :=
  match remarks with
  | none | some [] => .ok ""
  | some entries => do
      let head ← say [.plain "  meta:" (some "dim")]
      let lines ← remarkLines entries
      return emptyLine ++ head ++ lines

end Bindery.Report
