import Bindery.CommandLine.Commands
import Bindery.Project
import Bindery.Report.Outcome
import Bindery.Settings.Load

/-!
Contract: one run of the program.

Owns:
- the order of things: the words of the program, what is done at once, the directory, the command's
  name, the settings, the words of the command, what it does at once, its arguments, and its
  operation. The first thing that is wrong ends the run;
- what is printed: results on the standard stream, and warnings, failures and complaints on the
  other one. A result in JSON holds its warnings itself;
- the exit code: 0 for success, 1 for a failure, 2 for a wrong use;
- how the log of a run is set up, and what is written of it. It goes to the error stream as well.

Terminal sequences are not printed.
-/

namespace Bindery.CommandLine

/-- What ends a run without being reported in it. -/
inductive Escape where
  | settings (error : SettingsError)
  | fault (fault : Fault)
  | report (fault : ReportFault)
deriving Repr

/-- What is said about a cause that nothing reports. -/
def Escape.message : Escape → String
  | settings (.invalid issues) =>
      let line (issue : Settings.Issue) := ".".intercalate issue.place ++ ": " ++ issue.flaw.code
      Text.joinLines (issues.map line)
  | settings error => error.message
  | fault cause => cause.message
  | report (.display inner) => inner.message
  | report .notMapping => "a mapping is needed"
  | report .notIterable => "a list is needed"
  | report .notNumber => "a number is needed"

/-- What a run printed, what it wrote of its log, and how it ended. -/
structure Finished where
  exitCode : Nat
  stdout : String
  stderr : String
  log : LogOutput
  escaped : Option Escape
deriving Repr

/-- Why a file is not taken as an argument. -/
inductive PathFault where
  | missing
  | isFile
  | isDirectory
deriving DecidableEq, Repr

/-- What is wrong with the use of the program. -/
inductive UsageFault where
  | word (fault : WordFault)
  | unknownCommand (name : String)
  | extraArguments (arguments : List String)
  | missingArgument (name : String)
  | badPath (label kind path : String) (fault : PathFault)
deriving DecidableEq, Repr

def PathFault.text : PathFault → String
  | missing => "does not exist."
  | isFile => "is a file."
  | isDirectory => "is a directory."

def UsageFault.message : UsageFault → String
  | word (.unknownOption name) => "No such option " ++ Text.quote name ++ "."
  | word (.missingValue name) => "Option " ++ Text.quote name ++ " requires an argument."
  | word (.unwantedValue name) => "Option " ++ Text.quote name ++ " does not take a value."
  | unknownCommand name => "No such command " ++ Text.quote name ++ "."
  | extraArguments arguments =>
      let noun := if arguments.length = 1 then "argument" else "arguments"
      "Got unexpected extra " ++ noun ++ " (" ++ " ".intercalate arguments ++ ")"
  | missingArgument name => "Missing argument '" ++ name ++ "'."
  | badPath label kind path fault =>
      "Invalid value for " ++ label ++ ": " ++ kind ++ " " ++ Text.quote path ++ " " ++ fault.text

/-- Whether the usage line is shown with a fault. It is not for a value that is missing or that
does not belong there. -/
def UsageFault.showsUsage : UsageFault → Bool
  | word (.missingValue _) => false
  | word (.unwantedValue _) => false
  | _ => true

/-! ## Printing -/

/-- Whether the code of a character lies between those of two others. -/
def isBetween (low high c : Char) : Bool :=
  low ≤ c && c ≤ high

/-- Recognises a terminal sequence: its introduction, parameters, signs between them and the end,
and the character that ends it. -/
def terminalSequence : Text.Recogniser Unit := fun text =>
  match text with
  | '\x1b' :: '[' :: rest =>
      let parameters := rest.takeWhile (isBetween '0' '?')
      let signs := (rest.drop parameters.length).takeWhile (isBetween ' ' '/')
      let size := parameters.length + signs.length
      match rest.drop size with
      | c :: _ => if isBetween '@' '~' c then some ((), size + 3) else none
      | [] => none
  | _ => none

def printed (text : String) : String :=
  String.ofList (Text.erase terminalSequence text.toList) ++ "\n"

def Finished.shows (text : String) : Finished :=
  ⟨0, printed text, "", .silent, none⟩

/-- A run that ends by something that is not reported. -/
def Finished.escapes (escape : Escape) : Finished :=
  ⟨1, "", "", .silent, some escape⟩

def Finished.complains (path usage : String) (fault : UsageFault) : Finished :=
  let hint :=
    if fault.showsUsage then
      printed usage ++ printed ("Try '" ++ path ++ " --help' for help.") ++ printed ""
    else ""
  ⟨2, "", hint ++ printed ("Error: " ++ fault.message), .silent, none⟩

/-- A run that complains about the use of the program itself. -/
def Finished.programFault (fault : UsageFault) : Finished :=
  .complains programName programUsage fault

/-- A run that complains about the use of a command. -/
def Finished.commandFault (command : CommandForm) (fault : UsageFault) : Finished :=
  .complains command.path command.usage fault

def Finished.withoutSettings (error : SettingsError) : Finished :=
  match error with
  | .invalidFile _ => ⟨1, "", printed ("Error: " ++ error.message), .silent, none⟩
  | _ => .escapes (.settings error)

def reportForm (settings : Settings) : ReportForm :=
  ⟨settings.switches.json, settings.switches.quiet, settings.switches.verbose⟩

def Finished.ofOutcome (form : ReportForm) (outcome : Outcome) : Finished :=
  match form.render outcome with
  | .error fault => .escapes (.report fault)
  | .ok text =>
      if !outcome.ok then ⟨1, "", printed text, .silent, none⟩
      else
        let warnings := outcome.warnings.map fun warning => printed ("WARNING: " ++ warning)
        ⟨0, printed text, if form.json then "" else String.join warnings, .silent, none⟩

/-! ## Paths as arguments -/

/-- Whether a written path can only name a directory, since it ends with a slash. -/
def demandsDirectory (path : String) : Bool :=
  match path.toList.reverse with
  | '/' :: _ => true
  | '.' :: '/' :: _ => true
  | _ => false

/-- What is wrong with a written path, if files or directories are not wanted. -/
def pathFault (wantsFile : Bool) (path : String) : Action (Option PathFault) :=
  .observe fun world =>
    match world.files.status world.base (.ofString path) with
    | .error .nullInPath => .error .nullInPath
    | .error _ => .ok (some .missing)
    | .ok .directory => .ok (if wantsFile then some .isDirectory else none)
    | .ok (.file _) =>
        if demandsDirectory path then .ok (some .missing)
        else .ok (if wantsFile then none else some .isFile)

/-- What is wrong with a written path; an empty one names nothing. -/
def checkPath (wantsFile : Bool) (label kind path : String) : Action (Option UsageFault) :=
  if path.isEmpty then pure (some (.badPath label kind path .missing))
  else do
    return (← pathFault wantsFile path).map (.badPath label kind path)

/-- What is wrong with the project's directory, if one was given. -/
def checkDirectory (parsed : Parsed) : Action (Option UsageFault) :=
  match parsed.valueOf "project_root" with
  | none => pure none
  | some path => checkPath false "'-C' / '--directory'" "Directory" path

/-! ## Operations -/

def operate (book : Book) (command : CommandForm) (parsed : Parsed) : Action Outcome :=
  let argument := parsed.arguments.headD ""
  if command.name = buildCommand.name then book.build none
  else if command.name = diagramsCommand.name then book.drawDiagrams none
  else if command.name = preprocessCommand.name then
    book.renderManuscript (.ofString argument) (parsed.valueOf "output")
  else book.showExcerpt argument (parsed.valueOf "section")

/-- What is wrong with the arguments of a command. -/
def checkArguments (command : CommandForm) (parsed : Parsed) : Action (Option UsageFault) := do
  match command.arguments, parsed.arguments with
  | name :: _, [] => return some (.missingArgument name)
  | name :: _, first :: others =>
      let bad ←
        if command.name = preprocessCommand.name then
          checkPath true ("'" ++ name ++ "'") "File" first
        else pure none
      return bad.orElse fun _ => if others.isEmpty then none else some (.extraArguments others)
  | [], [] => return none
  | [], extra => return some (.extraArguments extra)

def runCommand (settings : Settings) (command : CommandForm) (words : List String) :
    Action Finished := do
  match readWords command.options true words with
  | .error fault => return .commandFault command (.word fault)
  | .ok parsed =>
      match parsed.immediate command.options with
      | some .examples => return .shows command.examplesPage
      | some _ => return .shows command.page
      | none =>
          match ← checkArguments command parsed with
          | some fault => return .commandFault command fault
          | none =>
              let outcome ← operate (settings.book none) command parsed
              return .ofOutcome (reportForm settings) outcome

/-! ## The run -/

/-- The switches that were given, all of which count. -/
def givenSwitches (parsed : Parsed) : Entries :=
  Settings.switchKeys.map fun key => (key, .bool (parsed.isGiven key))

def settingsOf (parsed : Parsed) : Action (Except SettingsError Settings) := do
  let root ←
    match parsed.valueOf "project_root" with
    | none => pure none
    | some path => (do return some (← Action.resolve (.ofString path)) : Action (Option Path))
  Settings.load (parsed.valueOf "config_path") root (givenSwitches parsed)

/-- The log of a run with these settings. -/
def loggingOf (settings : Settings) : Logging :=
  .configure settings.switches.verbose settings.switches.logJson

/-- Writes of the events of an action what the log of the run admits. -/
def writeLog (settings : Settings) (action : Action Finished) : Action Finished := do
  let before ← .observe fun world => .ok world.events.length
  let finished ←
    .ofEffect fun world =>
      let (result, after) := action.exec world
      match result with
      | .ok finished => (.ok finished, after)
      | .error fault => (.ok (.escapes (.fault fault)), after)
  let events ← .observe fun world => .ok (world.events.drop before)
  return { finished with log := (loggingOf settings).output events }

/-- Records phases from now on if the run is verbose. -/
def startRecording (settings : Settings) : Action Unit :=
  .update fun world =>
    if settings.switches.verbose then
      { world with recording := { world.recording with enabled := true } }
    else world

def withSettings (parsed : Parsed) (next : Settings → Action Finished) : Action Finished := do
  match ← settingsOf parsed with
  | .error error => return .withoutSettings error
  | .ok settings =>
      startRecording settings
      writeLog settings (next settings)

def immediatePage : Immediate → String
  | .version => versionText
  | _ => programPage

/-- Complains about the name of a command; one that looks like options is read as such. -/
def unknownCommand (name : String) (words : List String) : Action Finished := do
  match readWords programOptions false words with
  | .error fault => return .programFault (.word fault)
  | .ok parsed =>
      match parsed.immediate programOptions with
      | some immediate => return .shows (immediatePage immediate)
      | none =>
          match ← checkDirectory parsed with
          | some fault => return .programFault fault
          | none => return .programFault (.unknownCommand name)

def proceed (parsed : Parsed) : Action Finished := do
  match ← checkDirectory parsed with
  | some fault => return .programFault fault
  | none =>
      match parsed.arguments with
      | [] => withSettings parsed fun _ => return .shows programPage
      | name :: words =>
          match commandNamed name with
          | none => unknownCommand name (name :: words)
          | some command => withSettings parsed fun settings => runCommand settings command words

def runWords (words : List String) : Action Finished :=
  match readWords programOptions false words with
  | .error fault => pure (.programFault (.word fault))
  | .ok parsed =>
      match parsed.immediate programOptions with
      | some immediate => pure (.shows (immediatePage immediate))
      | none => proceed parsed

/-- Runs the program; a fault that nothing reports ends it. -/
def run (words : List String) (world : World) : Finished × World :=
  match (runWords words).exec world with
  | (.ok finished, after) => (finished, after)
  | (.error fault, after) => (.escapes (.fault fault), after)

end Bindery.CommandLine
