import Bindery.Value.Basic

/-!
Contract: the events that the program logs, and which of them are written in which form.

Owns:
- `Event`, with its level and the name of its logger, and the record of one;
- `Logging`, how the log of a run is set up: the level from which events of the program's own
  loggers are written, and the form of the written lines. Events of any other logger are written
  from warnings on;
- `LogOutput`, what is written of a list of events.

Does not own: the time stamps of written lines.
-/

namespace Bindery

inductive Level where
  | debug
  | info
  | warning
deriving DecidableEq, Repr

def Level.name : Level → String
  | debug => "debug"
  | info => "info"
  | warning => "warning"

def Level.severity : Level → Nat
  | debug => 10
  | info => 20
  | warning => 30

theorem Level.debug_le (level : Level) : debug.severity ≤ level.severity := by
  cases level <;> decide

theorem Level.warning_le_iff (level : Level) :
    warning.severity ≤ level.severity ↔ level = warning := by
  cases level <;> decide

structure Event where
  level : Level
  logger : String
  message : String
  fields : Entries
deriving Repr, BEq

def Event.record (event : Event) : Entries :=
  event.fields ++ [("event", .str event.message), ("level", .str event.level.name),
    ("logger", .str event.logger)]

/-- The form of the lines of a log: for readers, or one object of JSON each. -/
inductive LogForm where
  | console
  | json
deriving DecidableEq, Repr

/-- How a log is set up. -/
structure Logging where
  level : Level
  form : LogForm
deriving DecidableEq, Repr

/-- What is written of a log. -/
structure LogOutput where
  form : LogForm
  events : List Event
deriving Repr

/-- Nothing is written. -/
def LogOutput.silent : LogOutput :=
  ⟨.console, []⟩

namespace Logging

/-- The name of the program's own logger, below which all its other loggers are. -/
def ownLogger : String := "bookctl"

def isOwn (logger : String) : Bool :=
  logger = ownLogger || (ownLogger ++ ".").toList.isPrefixOf logger.toList

/-- The level of all loggers that are not the program's own. -/
def otherLevel : Level := .warning

/-- The log of a run: the program's own events are written from the first if the run is verbose,
and otherwise from warnings on. -/
def configure (verbose logJson : Bool) : Logging where
  level := if verbose then .debug else .warning
  form := if logJson then .json else .console

def levelOf (logging : Logging) (logger : String) : Level :=
  if isOwn logger then logging.level else otherLevel

/-- An event is written if its level reaches that of its logger. -/
def admits (logging : Logging) (event : Event) : Bool :=
  (logging.levelOf event.logger).severity ≤ event.level.severity

def output (logging : Logging) (events : List Event) : LogOutput :=
  ⟨logging.form, events.filter logging.admits⟩

end Logging

end Bindery
