import Bindery.Outcome
import Bindery.Report.Artifacts
import Bindery.Report.Timings
import Bindery.Value.Json

/-!
Contract: the outcome of an operation as text.

Owns:
- the forms: JSON, a single status line, and a report for people, which is longer on request;
- the reports of builds, of single manuscripts and of everything else;
- the report of a failure, with the output of the tool that failed.

The content of an excerpt is shown as it is in both forms for people.
-/

namespace Bindery

/-- What is asked of the form of an outcome. JSON comes before the status line, and that before a
report. -/
structure ReportForm where
  json : Bool
  quiet : Bool
  verbose : Bool
deriving DecidableEq, Repr

namespace Report

/-- The operation whose content is shown as it is. -/
def contentOp : String := "snippet"

def artifactOps : List String := ["build", "render_diagrams"]

def manuscriptOp : String := "preprocess"

def content (outcome : Outcome) : String :=
  (valueOr outcome.data "content" (.str "")).display

def failureMessage (outcome : Outcome) : String :=
  match outcome.error with
  | some failure => failure.message
  | none => "Unknown error"

/-- The first line of the report of a success. -/
def headline (outcome : Outcome) : Except ReportFault String :=
  say [.plain "OK" (some "book.ok"), .plain ("  " ++ outcome.op) (some "book.op")]

def buildFields (data : Entries) : Except ReportFault String := do
  let target ← field "target" (valueOr data "target" (.str ""))
  match data.find? "needs_rebuild" with
  | some demanded => return target ++ (← field "needs_rebuild" demanded)
  | none => return target

/-- What the report of a success says about its data. -/
def body (verbose : Bool) (outcome : Outcome) : Except ReportFault String := do
  if artifactOps.contains outcome.op then
    let fields ← buildFields outcome.data
    let table ← artifacts verbose outcome.data
    return fields ++ table
  else if outcome.op = manuscriptOp then
    let source ← field "source" (valueOr outcome.data "source" (.str ""))
    let path ← field "path" (valueOr outcome.data "path" (.str ""))
    return source ++ path
  else
    fields outcome.data

def success (verbose : Bool) (outcome : Outcome) : Except ReportFault String := do
  let status ← headline outcome
  let body ← body verbose outcome
  let remarks ← if verbose then remarkBlock outcome.remarks else pure ""
  return status ++ body ++ remarks

def detailLines : Entries → Except ReportFault String
  | [] => .ok ""
  | (key, value) :: rest => do
      let first ←
        if key = "output" then pure ""
        else say [.plain ("    " ++ key ++ ": " ++ value.display) none]
      let others ← detailLines rest
      return first ++ others

/-- The details of a failure, and the output of its tool. -/
def detailBlock (verbose : Bool) (detail : Entries) : Except ReportFault String := do
  let lines ←
    if verbose && !detail.isEmpty then
      let head ← say [.plain "  detail:" (some "dim")]
      let others ← detailLines detail
      pure (head ++ others)
    else pure ""
  let output := valueOr detail "output" .null
  let shown ← if output.isTruthy then say [.plain output.display (some "dim")] else pure ""
  return lines ++ shown

def failed (verbose : Bool) (outcome : Outcome) : Except ReportFault String := do
  let head ← say
    [.plain "ERROR" (some "book.error"), .plain ("  " ++ outcome.op) (some "book.op"), .markup "—",
      .plain (failureMessage outcome) none]
  match outcome.error with
  | some failure => return head ++ (← detailBlock verbose failure.detail)
  | none => return head

def dropLineEnds (text : String) : String :=
  String.ofList ((text.toList.reverse.dropWhile (· = '\n')).reverse)

def full (verbose : Bool) (outcome : Outcome) : Except ReportFault String :=
  if outcome.ok && outcome.op = contentOp then .ok (content outcome)
  else
    (if outcome.ok then success verbose outcome else failed verbose outcome).map dropLineEnds

def brief (outcome : Outcome) : String :=
  if !outcome.ok then "ERROR: " ++ outcome.op ++ " — " ++ failureMessage outcome
  else if outcome.op = contentOp then content outcome
  else "OK: " ++ outcome.op

end Report

def ReportForm.render (form : ReportForm) (outcome : Outcome) : Except ReportFault String :=
  if form.json then .ok (Json.pretty outcome.toValue)
  else if form.quiet then .ok (Report.brief outcome)
  else Report.full form.verbose outcome

end Bindery
