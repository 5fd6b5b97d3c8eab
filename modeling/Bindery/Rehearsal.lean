import Bindery.Command

/-!
Contract: a runner that answers commands by rules, without any program.

Owns:
- `Rule`, an answer for all commands that begin with given words; the first rule that fits counts;
- what happens without a rule: there is no repository, and every other command succeeds and writes
  the artifact that its words name.
-/

namespace Bindery

/-- An answer for the commands that begin with given words. -/
structure Rule where
  start : List String
  status : Int
  stdout : String
  stderr : String
deriving DecidableEq, Repr

namespace Rehearsal

def ruleFor (rules : List Rule) (args : List String) : Option Rule :=
  rules.find? fun rule => rule.start.isPrefixOf args

def repositoryProgram : String := "git"

/-- What that program says where there is no repository. -/
def noRepository : String := "fatal: not a git repository\n"

def diagramContent : String := "%PDF-diagram"

def documentContent : String := "%PDF-book"

/-- The word behind the first occurrence of another one. -/
def wordAfter (word : String) : List String → Option String
  | first :: second :: rest =>
      if first = word then some second else wordAfter word (second :: rest)
  | _ => none

/-- What follows the first word that begins in a given way. -/
def valueOf (start : String) (args : List String) : Option String :=
  args.findSome? fun word =>
    if start.toList.isPrefixOf word.toList then
      some (String.ofList (word.toList.drop start.length))
    else none

/-- The artifact that the words of a command name, and its content. -/
def artifactOf (args : List String) : Option (Path × String) :=
  match wordAfter "-o" args with
  | some file => some (.ofString file, diagramContent)
  | none =>
      match valueOf "-output-directory=" args, valueOf "-jobname=" args with
      | some directory, some job =>
          some ((Path.ofString directory).joinText (job ++ ".pdf"), documentContent)
      | _, _ => none

def answer (rules : List Rule) (now : Int) (base : Place) (files : FileStore) (command : Command) :
    Except Fault Completion × FileStore :=
  match ruleFor rules command.args with
  | some rule => (.ok ⟨command.args, rule.status, rule.stdout, rule.stderr⟩, files)
  | none =>
      if command.args.head? = some repositoryProgram then
        (.ok ⟨command.args, 128, "", noRepository⟩, files)
      else
        match artifactOf command.args with
        | none => (.ok ⟨command.args, 0, "", ""⟩, files)
        | some (path, content) =>
            match files.write base now path (Text.encode content) with
            | .ok written => (.ok ⟨command.args, 0, "", ""⟩, written)
            | .error fault => (.error fault, files)

end Rehearsal

def Runner.rehearsed (rules : List Rule) : Runner where
  answer _ now base files command := Rehearsal.answer rules now base files command

end Bindery
