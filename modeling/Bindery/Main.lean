import Bindery.CommandLine.Run
import Bindery.Shell.Machine

/-!
Contract: the program, the only part that touches real files.

Owns:
- taking the files that a run can reach into the store: those below the working directory, below
  every directory above it that holds a configuration file, and those that words of the command
  line name;
- writing back what the run made, and printing what it said.

Links to directories are not followed. The clock of a run is later than all of its files. Commands
are answered by the machine of `Bindery.Shell`.

Does not own: any decision of the run (`Bindery.CommandLine.Run`).
-/

namespace Bindery.Program

/-- The variables of the environment that a run looks at. -/
def variableNames : List String :=
  let key (name : String) := name.map Char.toUpper
  let switches := Settings.switchKeys.map fun name => "BOOKCTL_" ++ key name
  let sections := Settings.sectionKeys.flatMap fun name =>
    let start := "BOOKCTL_" ++ key name
    start :: (Settings.Environment.keysOf name).map fun inner => start ++ "__" ++ key inner
  Settings.fileVariable :: switches ++ sections

def readVariables : IO (List (String × String)) :=
  variableNames.filterMapM fun name => do
    return (← IO.getEnv name).map fun text => (name, text)

def placeOf (path : String) : Place :=
  Path.collapse (Path.ofString path).parts

def loadFile (files : FileStore) (path : String) (seconds : Int) : IO FileStore := do
  let content ← IO.FS.readBinFile path
  return files.plant (placeOf path) (.file ⟨content.toList, seconds, false⟩)

/-- Takes the directory or file of an entry, and everything below it, into the store. -/
partial def loadTree (files : FileStore) (entry : IO.FS.DirEntry) : IO FileStore := do
  let status ← entry.path.symlinkMetadata
  match status.type with
  | .dir =>
      let mut loaded := files.plant (placeOf entry.path.toString) .directory
      for child in ← entry.path.readDir do
        loaded ← loadTree loaded child
      return loaded
  | .file => loadFile files entry.path.toString status.modified.sec
  | _ => return files

/-- Takes a path that may name nothing into the store. -/
def loadPath (files : FileStore) (path : String) : IO FileStore := do
  try
    loadTree files ⟨path, ""⟩
  catch _ => return files

/-- The directories at and above a place that hold a configuration file. -/
def configuredPlaces (place : Place) : IO (List Place) :=
  (List.range (place.length + 1)).filterMapM fun count => do
    let above := place.take count
    let file := (Path.ofPlace (above ++ [Settings.fileName])).render
    try
      let _ ← IO.FS.readBinFile file
      return some above
    catch _ => return none

/-- The files that a run can reach from a place with its words. -/
def loadFiles (base : Place) (words : List String) : IO FileStore := do
  let here := Path.ofPlace base
  let configured ← configuredPlaces base
  let named := words.map fun word => Path.collapse (here.joinText word).parts
  let places := base :: configured ++ named.filter fun place => !place.isEmpty
  places.foldlM (fun files place => loadPath files (Path.ofPlace place).render) .empty

/-- A second behind the last change of every file. -/
def secondAfter (files : FileStore) : Int :=
  files.entries.foldl (fun latest entry =>
    match entry.2 with
    | .file file => max latest (file.modified + 1)
    | .directory => latest) 0

/-- Makes the directories and files that a run has made. -/
def writeBack (before after : FileStore) : IO Unit := do
  for place in FileStore.newDirectories before after do
    IO.FS.createDirAll (Path.ofPlace place).render
  for (place, file) in FileStore.changes before after do
    IO.FS.writeBinFile (Path.ofPlace place).render ⟨file.content.toArray⟩

def startWorld (files : FileStore) (base : Place) (environment : List (String × String)) :
    World where
  files := files
  now := secondAfter files
  base := base
  environment := environment
  runner := .machine environment
  commands := []
  requests := []
  missing := []
  events := []
  recording := .start false fun _ => 0

/-- A written line of the log, without its time stamp. -/
def logLine (form : LogForm) (event : Event) : String :=
  match form with
  | .json => Json.compact (.map event.record)
  | .console =>
      let field (entry : String × Value) := " " ++ entry.1 ++ "=" ++ entry.2.display
      "[" ++ event.level.name ++ "] " ++ event.message ++ " [" ++ event.logger ++ "]" ++
        String.join (event.fields.map field)

def report (finished : CommandLine.Finished) : IO UInt32 := do
  for event in finished.log.events do
    IO.eprintln (logLine finished.log.form event)
  IO.print finished.stdout
  IO.eprint finished.stderr
  match finished.escaped with
  | some escape => IO.eprintln escape.message
  | none => pure ()
  return finished.exitCode.toUInt32

end Bindery.Program

open Bindery Bindery.Program in
/-- Runs the program on the words of its command line. -/
def main (words : List String) : IO UInt32 := do
  let base := placeOf (← IO.currentDir).toString
  let files ← loadFiles base words
  let (finished, after) := CommandLine.run words (startWorld files base (← readVariables))
  writeBack files after.files
  report finished
