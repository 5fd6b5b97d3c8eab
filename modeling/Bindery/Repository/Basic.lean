import Bindery.World

/-!
Contract: the three things that a build asks of the source repository.

Owns:
- `Repository`, the interface: which branch is checked out, the working copy of a file, and a
  file as committed on a branch. A file that is not there has empty content;
- `Repository.ofSnapshot`, a repository held in memory.

Does not own: the repository behind a `git` command (`Bindery.Repository.Git`), and what is
done with a file's content (`Bindery.Excerpt`).
-/

namespace Bindery

/-- Read access to a source repository. -/
structure Repository where
  checkedOut : Action (Option String)
  readWorking : (path : String) → Action String
  readCommitted : (branch path : String) → Action String

/-- The content of a repository at one moment. A file may be listed as unreadable. -/
structure Snapshot where
  branch : Option String
  working : List (String × String)
  committed : List ((String × String) × String)
  unreadable : List String
deriving DecidableEq, Repr

/-- A repository that always answers from one snapshot. Of two files with one name the later one
counts. -/
def Repository.ofSnapshot (snapshot : Snapshot) : Repository where
  checkedOut := pure snapshot.branch
  readWorking path :=
    if snapshot.unreadable.contains path then .fail (.io ⟨.denied, path⟩)
    else pure ((snapshot.working.reverse.lookup path).getD "")
  readCommitted branch path :=
    pure ((snapshot.committed.reverse.lookup (branch, path)).getD "")

end Bindery
