import Bindery.Command
import Bindery.Phase

/-!
Contract: the world that a build acts on, and actions in it.

Owns:
- `World`: files, clock, working directory, environment variables and the runner of commands,
  together with what has been done so far: commands, requests to version control, excerpts that
  were not found, log events, and the recording of phases;
- `Action`, a step in the world that answers or ends with a fault. The world that a fault leaves is
  kept: what was done before it stays done;
- the elementary actions.
-/

namespace Bindery

inductive Request where
  | working (path : String)
  | history (branch path : String)
deriving DecidableEq, Repr

/-- Everything that an action can see and change. -/
structure World where
  files : FileStore
  now : Int
  base : Place
  environment : List (String × String)
  runner : Runner
  commands : List Command
  requests : List Request
  missing : List String
  events : List Event
  recording : Recording

abbrev Action (α : Type) := ExceptT Fault (StateM World) α

namespace Action

/-- The answer of an action and the world after it. -/
def exec {α : Type} (action : Action α) (world : World) : Except Fault α × World :=
  ExceptT.run action world

def ofEffect {α : Type} (effect : World → Except Fault α × World) : Action α :=
  ExceptT.mk effect

/-- Reads something off the world; the reading may fail. -/
def observe {α : Type} (reading : World → Except Fault α) : Action α :=
  ofEffect fun world => (reading world, world)

def update (change : World → World) : Action Unit :=
  ofEffect fun world => (.ok (), change world)

def fail {α : Type} (fault : Fault) : Action α :=
  ofEffect fun world => (.error fault, world)

def log (level : Level) (logger message : String) (fields : Entries) : Action Unit :=
  update fun world => { world with events := world.events ++ [⟨level, logger, message, fields⟩] }

def run (command : Command) : Action Completion :=
  ofEffect fun world =>
    let (result, files) :=
      world.runner.answer world.commands world.now world.base world.files command
    let notes := world.runner.notes world.commands world.now world.base world.files command
    (result, { world with
      files := files, commands := world.commands ++ [command], events := world.events ++ notes })

def readFile (path : Path) : Action (List UInt8) :=
  observe fun world => world.files.read world.base path

/-- The text of a file; what is not UTF-8 in it is replaced. -/
def readText (path : Path) : Action String := do
  return Text.readLossy (← readFile path)

def makeDirectories (path : Path) : Action Unit :=
  ofEffect fun world =>
    let (result, files) := world.files.makeDirectories world.base path
    (result, { world with files := files })

def writeFile (path : Path) (content : List UInt8) : Action Unit :=
  ofEffect fun world =>
    match world.files.write world.base world.now path content with
    | .ok files => (.ok (), { world with files := files })
    | .error fault => (.error fault, world)

def writeText (path : Path) (text : String) : Action Path := do
  makeDirectories path.parent
  writeFile path (Text.encode text)
  return path

def isFile (path : Path) : Action Bool :=
  observe fun world => world.files.isFile world.base path

def isDirectory (path : Path) : Action Bool :=
  observe fun world => world.files.isDirectory world.base path

def workingDirectory : Action Path :=
  observe fun world => .ok (.ofPlace world.base)

def environment : Action (List (String × String)) :=
  observe fun world => .ok world.environment

/-- A path without double dots, seen from the root. -/
def resolve (path : Path) : Action Path :=
  observe fun world => FileStore.resolve world.base path

/-! ## Recorded phases -/

/-- Runs an action inside a phase, which is closed whether or not the action fails. -/
def within {α : Type} (name : String) (isRoot : Bool) (action : Action α) :
    Action (α × Option Phase) :=
  ofEffect fun world =>
    let opened := { world with recording := world.recording.push name isRoot }
    let (result, inside) := action.exec opened
    let (phase, recording) := inside.recording.pop
    (result.map fun value => (value, phase), { inside with recording := recording })

/-- Runs an action as a phase of the operation that is being recorded, if one is. The action is
told whether it is. -/
def phase {α : Type} (name : String) (action : Bool → Action α) : Action α :=
  ofEffect fun world =>
    if world.recording.recordsChildren then
      ((do return (← within name false (action true)).1 : Action α)).exec world
    else (action false).exec world

def annotate (key : String) (value : Value) : Action Unit :=
  update fun world => { world with recording := world.recording.annotate key value }

@[simp]
theorem exec_pure {α : Type} (value : α) (world : World) :
    (pure value : Action α).exec world = (.ok value, world) := rfl

theorem exec_bind {α β : Type} (action : Action α) (next : α → Action β) (world : World) :
    (action >>= next).exec world =
      match action.exec world with
      | (.ok value, after) => (next value).exec after
      | (.error fault, after) => (.error fault, after) := by
  change StateT.bind action (ExceptT.bindCont next) world = _
  simp only [StateT.bind, exec, ExceptT.run]
  rcases action world with ⟨result, after⟩
  cases result <;> rfl

@[simp]
theorem exec_ofEffect {α : Type} (effect : World → Except Fault α × World) (world : World) :
    (ofEffect effect).exec world = effect world := rfl

end Action

end Bindery
