import Bindery.Source.Pattern
import Bindery.World

/-!
Contract: finding the sources of a book.

Owns:
- the three kinds of source, and the suffixes that tell them;
- `find`, the files inside a directory whose names end in a suffix, in the order of their names; a
  directory that is not there has none;
- `collect`: diagrams by renderer, then by name, fragments and documents by name.
-/

namespace Bindery.Source

inductive Kind where
  | diagram
  | fragment
  | document
deriving DecidableEq, Repr

def Kind.name : Kind → String
  | diagram => "diagram"
  | fragment => "fragment"
  | document => "document"

def Kind.ofName? (name : String) : Option Kind :=
  [diagram, fragment, document].find? fun kind => kind.name = name

/-- The sources of one run, in the order in which they are treated. -/
structure Collection where
  diagrams : List Path
  fragments : List Path
  documents : List Path
deriving DecidableEq, Repr

/-- The renderers, each of which is also the extension of its diagrams. -/
def renderers : List String := ["dot", "neato"]

def fragmentSuffix : String := ".tex"

def documentSuffix : String := ".latex"

def keepFiles : List Path → Action (List Path)
  | [] => pure []
  | path :: rest => do
      let isFile ← Action.isFile path
      let kept ← keepFiles rest
      return if isFile then path :: kept else kept

def inOrder (paths : List Path) : List Path :=
  paths.mergeSort fun left right => !decide (right.parts < left.parts)

/-- The files inside a directory whose names end in a suffix, which may itself be a pattern and may
lead further down. -/
def find (directory : Path) (suffix : String) : Action (List Path) := do
  if ← Action.isDirectory directory then
    let pattern := "*" ++ suffix
    match pathSteps pattern with
    | none => .fail (.badPattern pattern)
    | some steps =>
        let paths ← .observe fun world => select world.files world.base steps directory
        keepFiles (inOrder paths)
  else
    return []

/-- The diagrams of each renderer in turn. -/
def findDiagrams (directory : Path) : List String → Action (List Path)
  | [] => pure []
  | renderer :: rest => do
      let first ← find directory ("." ++ renderer)
      let others ← findDiagrams directory rest
      return first ++ others

def collect (latexDirectory graphvizDirectory : Path) : Action Collection := do
  let diagrams ← findDiagrams graphvizDirectory renderers
  let fragments ← find latexDirectory fragmentSuffix
  let documents ← find latexDirectory documentSuffix
  return ⟨diagrams, fragments, documents⟩

end Bindery.Source
