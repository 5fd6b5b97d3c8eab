import Bindery.World

/-!
Contract: finding the configuration file of a project.

Owns: the search. The file marks the root of its project, so the nearest one at or above the
starting directory is taken. A variable of the environment that is not empty names a file directly
and turns the search off.
-/

namespace Bindery.Settings

def fileName : String := "bookctl.toml"

def fileVariable : String := "BOOKCTL_CONFIG"

def ifFile (path : Path) : Action (Option Path) := do
  return if ← Action.isFile path then some path else none

/-- The configuration file nearest to the directory with the given names, last one first. -/
def searchUpFrom (anchor : Anchor) : (reversed : List String) → Action (Option Path)
  | [] => ifFile ⟨anchor, [fileName]⟩
  | name :: above => do
      let candidate : Path := ⟨anchor, (fileName :: name :: above).reverse⟩
      if ← Action.isFile candidate then
        return some candidate
      else
        searchUpFrom anchor above

/-- The file that a variable of the environment names. -/
def pinnedFile : Action (Option String) :=
  .observe fun world =>
    .ok (((world.environment.reverse.lookup fileVariable)).filter fun text => !text.isEmpty)

/-- The configuration file that holds at a directory, or at the working directory. -/
def findFile (start : Option Path) : Action (Option Path) := do
  match ← pinnedFile with
  | some text => ifFile (.ofString text)
  | none =>
      let here ← Action.resolve (start.getD ⟨.here, []⟩)
      searchUpFrom here.anchor here.parts.reverse

end Bindery.Settings
