import Bindery.Number.Limit
import Bindery.Path
import Bindery.Text.Utf8
import Bindery.Value.Basic

/-!
Contract: what can go wrong while a book is built, by cause.

Owns:
- `BuildError`, the errors that a build reports as its own: a bad location, a section without
  lines, a tool that failed; each has a code, a message and a detail record;
- `IoFault`, the refusals of the file system, with their numbers and the path concerned;
- `Fault`, anything that ends an operation early;
- every wording.
-/

namespace Bindery

/-- An error that ends a build and that its result reports. -/
inductive BuildError where
  | general (message : String) (detail : Entries)
  | invalidLocation (payload : String)
  | sectionNotFound (file name : String)
  | toolFailed (message source : String) (command : List String) (status : Int) (output : String)
deriving Repr, BEq

namespace BuildError

def code : BuildError → String
  | general .. => "BUILD_FAILED"
  | invalidLocation _ => "INVALID_LOCATION"
  | sectionNotFound .. => "SECTION_NOT_FOUND"
  | toolFailed .. => "TOOL_FAILED"

def message : BuildError → String
  | general text _ => text
  | invalidLocation payload =>
      "Invalid source location " ++ Text.quote payload ++ "; expected 'branch:path'"
  | sectionNotFound file name => "Section " ++ name ++ " not found in " ++ file
  | toolFailed text .. => text

def detail : BuildError → Entries
  | general _ entries => entries
  | invalidLocation payload => [("location", .str payload)]
  | sectionNotFound file name => [("file", .str file), ("section", .str name)]
  | toolFailed _ source command status output => [
      ("source", .str source), ("command", .list (command.map .str)), ("returncode", .int status),
      ("output", .str output)]

end BuildError

/-- Why the file system refuses. -/
inductive IoCause where
  | notFound
  | badFormat
  | denied
  | alreadyThere
  | notDirectory
  | isDirectory
  | nameTooLong
deriving DecidableEq, Repr

def IoCause.number : IoCause → Nat
  | notFound => 2
  | badFormat => 8
  | denied => 13
  | alreadyThere => 17
  | notDirectory => 20
  | isDirectory => 21
  | nameTooLong => 36

def IoCause.text : IoCause → String
  | notFound => "No such file or directory"
  | badFormat => "Exec format error"
  | denied => "Permission denied"
  | alreadyThere => "File exists"
  | notDirectory => "Not a directory"
  | isDirectory => "Is a directory"
  | nameTooLong => "File name too long"

/-- A refusal and the file as it was named. -/
structure IoFault where
  cause : IoCause
  file : String
deriving DecidableEq, Repr

/-- The wording of a refusal, in which `subject` is the file in the form it is shown. -/
def IoFault.describe (cause : IoCause) (subject : String) : String :=
  "[Errno " ++ toString cause.number ++ "] " ++ cause.text ++ ": " ++ subject

def IoFault.message (fault : IoFault) : String :=
  IoFault.describe fault.cause (Text.quote fault.file)

/-- Anything that ends an operation early. -/
inductive Fault where
  | build (error : BuildError)
  | io (fault : IoFault)
  | nullInPath
  | notUtf8 (fault : Text.Utf8FaultAt)
  | badPattern (pattern : String)
  | tooManyDigits (count : Nat)
deriving Repr, BEq

def Fault.message : Fault → String
  | build error => error.message
  | io fault => fault.message
  | nullInPath => "embedded null byte"
  | notUtf8 fault => fault.message
  | badPattern _ => "Invalid pattern: '**' can only be an entire path component"
  | tooManyDigits count => Number.tooManyDigitsText count

end Bindery
