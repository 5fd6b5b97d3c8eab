import Bindery.Repository.Basic

/-!
Contract: a source repository behind the `git` command.

Owns:
- the branch list that `git branch` prints and the flagged branch in it;
- `Repository.git`, which asks `git` inside the source root and reads working files itself.

A failing `git` is not a fault: without a branch list no branch is checked out, and a file that
`git show` refuses is empty.
-/

namespace Bindery.Git

def logger : String := "bookctl.infrastructure.vcs"

/-- The branch of a line of the list, if it is the flagged one. -/
def flaggedBranch (line : String) : Option String :=
  match line.toList with
  | '*' :: rest => some (String.ofList (Text.trim rest))
  | _ => none

/-- The first flagged branch of a printed list. -/
def currentBranchOf (listing : String) : Option String :=
  (Text.linesOf listing).findSome? flaggedBranch

def run (root : Path) (args : List String) : Action Completion :=
  .run ⟨"git" :: args, some root⟩

def noteRefusal (request : String) (result : Completion) : Action Unit :=
  .log .debug logger (request ++ " failed: " ++ Text.strip result.stderr) []

def checkedOut (root : Path) : Action (Option String) := do
  let result ← run root ["branch"]
  if result.ok then
    return currentBranchOf result.stdout
  else
    noteRefusal "git branch" result
    return none

def readWorking (root : Path) (path : String) : Action String := do
  let target := root.joinText path
  if ← Action.isFile target then
    Action.readText target
  else
    return ""

def readCommitted (root : Path) (branch path : String) : Action String := do
  let object := branch ++ ":" ++ path
  let result ← run root ["show", object]
  if result.ok then
    return result.stdout
  else
    noteRefusal ("git show " ++ object) result
    return ""

end Bindery.Git

namespace Bindery

/-- The repository in a directory, by way of `git`. -/
def Repository.git (root : Path) : Repository where
  checkedOut := Git.checkedOut root
  readWorking := Git.readWorking root
  readCommitted := Git.readCommitted root

end Bindery
