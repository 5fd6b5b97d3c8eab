import Bindery.Command
import Bindery.Shell.Run

/-!
Contract: a small machine on which commands can be run: its programs, among them a shell, and the
executable files of the store.

Owns:
- starting a command from outside of a shell: a name without a slash is one of the programs of the
  machine, and any other name is a file, seen from the directory in which the command runs;
- why a command cannot be started. That is an outcome with a status of its own and the reason as
  its error output, not a fault; only a null character or the lack of a program is one;
- the runner of this machine, which logs every command and why one could not be started.
-/

namespace Bindery.Shell

/-- Why a command cannot be started, and the name that is reported with it. -/
inductive StartFault where
  | refused (cause : IoCause) (name : String)
  | directoryRefused (cause : IoCause) (path : Path)
  | nullCharacter
  | noProgram
deriving DecidableEq, Repr

def StartFault.message : StartFault → String
  | refused cause name => IoFault.describe cause (Text.quote name)
  | directoryRefused cause path =>
      IoFault.describe cause ("PosixPath(" ++ Text.quote path.render ++ ")")
  | nullCharacter => "embedded null byte"
  | noProgram => "no program is named"

/-- The state in which commands are started: no input, and nothing that has been printed. -/
def Session.outside (environment : List (String × String)) (files : FileStore) (now : Int)
    (base : Place) : Session where
  name := ""
  arguments := []
  bindings :=
    (if (environment.lookup "PATH").isSome then []
      else [(⟨"PATH", some defaultPath, true, false⟩ : Binding)]) ++
    environment.map fun (name, value) => ⟨octets name, some (octets value), true, false⟩
  functions := []
  base := base
  files := files
  now := now
  channels := #[.supplying [], .collecting [], .collecting []]
  descriptors := [(0, 0), (1, 1), (2, 2)]
  documents := []
  nextDocument := 0
  options := []
  traps := []
  signals := []
  depth := 0
  strikes := []
  mask := 18
  frames := []
  loops := 0
  status := 0
  outputStatus := none
  background := none
  optionOffset := 0
  flow := .onward
  line := 1
  speaker := none

/-- The status of a session that has ended. A negative status is the number of a signal. -/
def Session.exitStatus (session : Session) : Int :=
  match session.flow with
  | .killed signal => -Int.ofNat signal
  | _ => session.status % 256

/-- What a name without a slash refers to when there is no such program. -/
def unknownProgram (name : String) : StartFault :=
  if name.isEmpty || name = "." || name = ".." then .refused .denied name
  else if FileStore.nameLimit < name.utf8ByteSize then .refused .nameTooLong name
  else .refused .notFound name

/-- Why the file of a name is no program. -/
def unusableFile (session : Session) (name : String) : StartFault :=
  match session.files.status session.base (.ofString name) with
  | .error (.io fault) => .refused fault.cause name
  | .error _ => .nullCharacter
  | .ok _ => .refused .denied name

/-- Why a program that was found cannot be started. -/
def Unavailable.cause : Unavailable → IoCause
  | notFound => .notFound
  | denied => .denied
  | other cause => cause

/-- Starts a command, and answers the session at its end. -/
def start (session : Session) : (args : List String) → Except StartFault Session
  | [] => .error .noProgram
  | name :: rest =>
      let begun (program : Program) : Except StartFault Session :=
        (startFound runFuel (octets name) (rest.map octets) program session).mapError
          fun fault => .refused fault.cause name
      if name.toList.contains '/' then
        match session.programAt (octets name) with
        | .ok program => begun program
        | .error _ => .error (unusableFile session name)
      else
        match machineProgram? name with
        | some program => begun program
        | none => .error (unknownProgram name)

def startDirectory (files : FileStore) (base : Place) : Option Path → Except StartFault Place
  | none => .ok base
  | some path =>
      match files.locate base path with
      | .error (.io fault) => .error (.directoryRefused fault.cause path)
      | .error _ => .error .nullCharacter
      | .ok place =>
          match files.find? place with
          | some .directory => .ok place
          | some (.file _) => .error (.directoryRefused .notDirectory path)
          | none => .error (.directoryRefused .notFound path)

/-- The session of a command at its end, or why it could not be started. -/
def started (environment : List (String × String)) (now : Int) (files : FileStore) (base : Place)
    (command : Command) : Except StartFault Session := do
  if command.args.isEmpty then .error .noProgram
  else if command.args.any fun word => word.toList.contains '\x00' then .error .nullCharacter
  else
    let place ← startDirectory files base command.directory
    start (.outside environment files now place) command.args

/-- The outcome of a command and the files afterwards, or a fault of its caller. -/
def execute (environment : List (String × String)) (now : Int) (files : FileStore) (base : Place)
    (command : Command) : Except StartFault (Completion × FileStore) :=
  match started environment now files base command with
  | .ok session =>
      .ok (⟨command.args, session.exitStatus, Text.readLossy (session.collected 1),
        Text.readLossy (session.collected 2)⟩, session.files)
  | .error .nullCharacter => .error .nullCharacter
  | .error .noProgram => .error .noProgram
  | .error fault => .ok (⟨command.args, notStarted, "", fault.message⟩, files)

end Bindery.Shell

namespace Bindery

namespace Runner

def logger : String := "bookctl.infrastructure.runner"

/-- What is logged before a command is started. -/
def startNote (command : Command) : Event :=
  let directory := (command.directory.map Path.render).getD "None"
  ⟨.debug, logger,
    "Running " ++ " ".intercalate command.args ++ " (cwd=" ++ directory ++ ")", []⟩

/-- What is logged of a command that could not be started. -/
def refusalNote (command : Command) (fault : Shell.StartFault) : Event :=
  ⟨.debug, logger,
    "Could not start " ++ command.args.headD "" ++ ": " ++ fault.message, []⟩

/-- The runner of the small machine. A command without a program is one that is not found. -/
def machine (environment : List (String × String)) : Runner where
  answer _ now base files command :=
    match Shell.execute environment now files base command with
    | .ok (result, after) => (.ok result, after)
    | .error .nullCharacter => (.error .nullInPath, files)
    | .error fault => (.ok ⟨command.args, notStarted, "", fault.message⟩, files)
  notes _ now base files command :=
    match Shell.started environment now files base command with
    | .ok _ => [startNote command]
    | .error .nullCharacter => [startNote command]
    | .error fault => [startNote command, refusalNote command fault]

end Runner

end Bindery
