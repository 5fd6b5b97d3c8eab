import Bindery.FileStore
import Bindery.Logging
import Bindery.Text.Blank

/-!
Contract: external commands, their outcomes, and whatever answers them.

Owns:
- `Command` and `Completion`;
- the tail of an outcome's output, which error reports quote: the trimmed standard output, then
  the trimmed error output, empty ones left out, of which the last lines are kept;
- `Runner`, anything that answers commands. It sees the commands before, the clock, the working
  directory and the files, and may change the files. It may log events of its own.

A command that exits with a status other than zero is an outcome like any other.
-/

namespace Bindery

/-- A command: the program with its arguments, and the directory to run it in. -/
structure Command where
  args : List String
  directory : Option Path
deriving DecidableEq, Repr

/-- The outcome of a command. A negative status is the number of the signal that ended it. -/
structure Completion where
  args : List String
  status : Int
  stdout : String
  stderr : String
deriving DecidableEq, Repr

/-- The status of a command that could not be started. -/
def notStarted : Int := 127

namespace Completion

def ok (result : Completion) : Bool :=
  result.status = 0

/-- The lines of both streams, trimmed, without an empty stream. -/
def outputLines (result : Completion) : List String :=
  let streams := [Text.strip result.stdout, Text.strip result.stderr]
  Text.linesOf (Text.joinLines (streams.filter fun stream => !stream.isEmpty))

/-- The last `count` lines. Zero keeps all of them, and a negative number counts the lines that
are left out in front. -/
def lastLines (count : Int) (lines : List String) : List String :=
  if 0 < count then lines.drop (lines.length - count.toNat) else lines.drop (-count).toNat

def reportedLines : Int := 20

def lastOutput (result : Completion) (count : Int) : String :=
  Text.joinLines (lastLines count result.outputLines)

end Completion

/-- Answers commands: the commands before, the clock, the working directory, the files, and the
command give an outcome or a fault, and the files afterwards. From the same it is known what the
runner logs about the command. -/
structure Runner where
  answer : (history : List Command) → (now : Int) → (base : Place) → FileStore → Command →
    Except Fault Completion × FileStore
  notes : (history : List Command) → (now : Int) → (base : Place) → FileStore → Command →
    List Event := fun _ _ _ _ _ => []

end Bindery
