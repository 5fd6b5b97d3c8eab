import Bindery.CommandLine.Help

/-!
Contract: the commands of the program, their options, and what is said about them.
-/

namespace Bindery.CommandLine

def programName : String := "bookctl"

def versionText : String := "bookctl, version 0.1.0"

def helpOption : OptionForm :=
  ⟨["--help"], "help", none, "Show this message and exit.", some .help⟩

def examplesOption : OptionForm :=
  ⟨["--examples"], "examples", none, "Show usage examples.", some .examples⟩

def programHelp : String :=
  "bookctl — build a book from LaTeX, graphviz, and live code excerpts."

def programOptions : List OptionForm := [
  ⟨["--version"], "version", none, "Show the version and exit.", some .version⟩,
  ⟨["--json"], "json_output", none, "Print results as JSON.", none⟩,
  ⟨["-q", "--quiet"], "quiet", none, "One status line per command.", none⟩,
  ⟨["-v", "--verbose"], "verbose", none, "Debug logging and phase timings.", none⟩,
  ⟨["--log-json"], "log_json", none, "Emit log events as JSON lines on stderr.", none⟩,
  ⟨["-c", "--config"], "config_path", some "TEXT", "Use this bookctl.toml.", none⟩,
  ⟨["-C", "--directory"], "project_root", some "DIRECTORY",
    "Book project root (default: where bookctl.toml is found, else cwd).", none⟩,
  helpOption]

def buildCommand : CommandForm where
  name := "build"
  help := "Render diagrams, preprocess fragments, and typeset every document."
  options := [examplesOption, helpOption]
  arguments := []
  examples := [
    "bookctl build", "bookctl -v build", "bookctl --json build",
    "BOOKCTL_LATEX__BUILDER=xelatex bookctl build"]

def diagramsCommand : CommandForm where
  name := "diagrams"
  help := "Render stale .dot and .neato diagrams to PDF."
  options := [examplesOption, helpOption]
  arguments := []
  examples := ["bookctl diagrams", "bookctl -q diagrams"]

def preprocessCommand : CommandForm where
  name := "preprocess"
  help := "Expand inclusion directives in SOURCE into the target directory."
  options := [
    ⟨["--output"], "output", some "TEXT",
      "File name inside the target directory (default: same as SOURCE).", none⟩,
    examplesOption, helpOption]
  arguments := ["SOURCE"]
  examples := [
    "bookctl preprocess src/book/latex/actors.tex",
    "bookctl preprocess src/book/latex/book.latex --output book.tmp.latex"]

def excerptCommand : CommandForm where
  name := "snippet"
  help := "Resolve LOCATION (branch:path) against the source repository."
  options := [
    ⟨["--section"], "section", some "TEXT", "Only the named FILE_SECTION.", none⟩,
    examplesOption, helpOption]
  arguments := ["LOCATION"]
  examples := [
    "bookctl snippet main:core/Actor.scala",
    "bookctl snippet chapter-3:core/Actor.scala --section receive"]

def allCommands : List CommandForm :=
  [buildCommand, diagramsCommand, preprocessCommand, excerptCommand]

def commandNamed (name : String) : Option CommandForm :=
  allCommands.find? fun command => command.name = name

def programUsage : String :=
  usageLine programName ["[OPTIONS]", "[COMMAND]", "[ARGS]..."]

def programPage : String :=
  helpPage programUsage programHelp programOptions allCommands

namespace CommandForm

def path (command : CommandForm) : String :=
  programName ++ " " ++ command.name

def usage (command : CommandForm) : String :=
  usageLine command.path command.pieces

def page (command : CommandForm) : String :=
  helpPage command.usage command.help command.options []

def examplesPage (command : CommandForm) : String :=
  Text.joinLines (("Examples for '" ++ command.path ++ "':") :: "" ::
    command.examples.map ("  " ++ ·))

end CommandForm

end Bindery.CommandLine
