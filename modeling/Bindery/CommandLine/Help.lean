import Bindery.CommandLine.Grammar
import Bindery.Text.Lines

/-!
Contract: help pages.

Owns:
- `CommandForm`, what a page says about a command;
- the page: a usage line, what the command does, a list of options and a list of commands;
- lists of two columns, the second of which is wrapped at words, and the short form of what a
  command does, which ends with its first sentence or with three dots.
-/

namespace Bindery.CommandLine

/-- A command: its name, what it does, its options, the names of its arguments, and examples. -/
structure CommandForm where
  name : String
  help : String
  options : List OptionForm
  arguments : List String
  examples : List String
deriving DecidableEq, Repr

def pageColumns : Nat := 80

def firstColumnLimit : Nat := 30

def splitWords (text : String) : List String :=
  ((Text.splitAt ' ' text.toList).filter fun word => !word.isEmpty).map String.ofList

/-- Puts words on lines of at most `width` characters, behind the start of a line. -/
def wrapFrom (width : Nat) : (line : String) → List String → List String
  | line, [] => [line]
  | line, word :: rest =>
      if line.length + 1 + word.length ≤ width then wrapFrom width (line ++ " " ++ word) rest
      else line :: wrapFrom width word rest

/-- Puts a text on lines of at most `width` characters. -/
def wrapText (width : Nat) (text : String) : List String :=
  match splitWords text with
  | [] => []
  | word :: rest => wrapFrom width word rest

def spaces (count : Nat) : String :=
  String.ofList (List.replicate count ' ')

/-- A row of a list, `column` being where the second part starts inside the indentation. -/
def listRow (column : Nat) (row : String × String) : List String :=
  let lines := wrapText (max (pageColumns - column - 2) 10) row.2
  let below := lines.map fun line => spaces (column + 2) ++ line
  if row.1.length + 2 ≤ column then
    match lines, below with
    | first :: _, _ :: others =>
        ("  " ++ row.1 ++ spaces (column - row.1.length) ++ first) :: others
    | _, _ => ["  " ++ row.1]
  else ("  " ++ row.1) :: below

def listSection (heading : String) (rows : List (String × String)) : List String :=
  let widest := (rows.map fun row => row.1.length).foldl max 0
  let column := min widest firstColumnLimit + 2
  ["", heading ++ ":"] ++ rows.flatMap (listRow column)

/-- The names of an option and what stands for its value. -/
def OptionForm.record (option : OptionForm) : String × String :=
  let names := ", ".intercalate option.names
  (match option.value with
    | some value => names ++ " " ++ value
    | none => names,
    option.help)

/-! ## Short forms -/

/-- The number of words that fit into `limit` characters, and whether they end a sentence or the
text, `used` being the characters before them and `count` their number. -/
def fittingWords (limit : Nat) : (used count : Nat) → List String → Nat × Bool
  | _, count, [] => (count, true)
  | used, count, word :: rest =>
      let total := used + word.length + (if count = 0 then 0 else 1)
      if limit < total then (count, false)
      else if word.endsWith "." then (count + 1, true)
      else if total = limit && !rest.isEmpty then (count + 1, false)
      else fittingWords limit total (count + 1) rest

/-- The most words whose text has at most `limit` characters. -/
def dropToFit (limit : Nat) (words : List String) : (count : Nat) → Nat
  | 0 => 0
  | count + 1 =>
      if (" ".intercalate (words.take (count + 1))).length ≤ limit then count + 1
      else dropToFit limit words count

/-- What a command does, in at most `limit` characters. -/
def shortHelp (limit : Nat) (help : String) : String :=
  let words := splitWords help
  let (count, complete) := fittingWords limit 0 0 words
  if complete then " ".intercalate (words.take count)
  else " ".intercalate (words.take (dropToFit (limit - 3) words count)) ++ "..."

/-! ## Pages -/

/-- The usage line of a command called by a path of names. -/
def usageLine (path : String) (pieces : List String) : String :=
  "Usage: " ++ " ".intercalate (path :: pieces)

/-- The parts of the usage line of a command. -/
def CommandForm.pieces (command : CommandForm) : List String :=
  "[OPTIONS]" :: command.arguments

def commandRows (commands : List CommandForm) : List (String × String) :=
  let widest := (commands.map fun command => command.name.length).foldl max 0
  commands.map fun command => (command.name, shortHelp (pageColumns - 6 - widest) command.help)

def helpPage (usage help : String) (options : List OptionForm) (commands : List CommandForm) :
    String :=
  let about := (wrapText (pageColumns - 2) help).map ("  " ++ ·)
  let optionLines := listSection "Options" (options.map OptionForm.record)
  let commandLines :=
    if commands.isEmpty then [] else listSection "Commands" (commandRows commands)
  Text.joinLines ([usage, ""] ++ about ++ optionLines ++ commandLines)

end Bindery.CommandLine
