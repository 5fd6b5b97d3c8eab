import Bindery.Location
import Bindery.Section
import Bindery.Repository.Basic

/-!
Contract: excerpts of the source repository.

Owns:
- where an excerpt comes from: the working tree when its branch is the one checked out, and the
  history of its branch otherwise;
- its lines: the content between line feeds, without empty lines at the end;
- the line that stands for content that is not there, and the record of such places;
- narrowing an excerpt to a section, which is a fault when no line remains.

Nothing is kept from one excerpt to the next.
-/

namespace Bindery.Excerpt

def logger : String := "bookctl.services.snippets"

/-- The line that stands for the content of a path that was not found. -/
def standIn (path : String) : String :=
  path ++ " NOT FOUND"

def dropEmptyEnd (lines : List String) : List String :=
  (lines.reverse.dropWhile (· = "")).reverse

def contentLines (text : String) : List String :=
  dropEmptyEnd (Text.splitNewlines text)

/-- Where content was read. -/
inductive Origin where
  | workingTree
  | history
deriving DecidableEq, Repr

def Origin.name : Origin → String
  | workingTree => "working_tree"
  | history => "history"

def noteRequest (request : Request) : Action Unit :=
  .update fun world => { world with requests := world.requests ++ [request] }

def noteMissing (location : Location) : Action Unit :=
  .update fun world => { world with missing := world.missing ++ [location.render] }

def forgetMissing : Action Unit :=
  .update fun world => { world with missing := [] }

def fetch (repository : Repository) (location : Location) : Action (Origin × String) := do
  let current ← repository.checkedOut
  if current = some location.branch then
    noteRequest (.working location.path)
    return (.workingTree, ← repository.readWorking location.path)
  else
    noteRequest (.history location.branch location.path)
    return (.history, ← repository.readCommitted location.branch location.path)

def linesAt (repository : Repository) (location : Location) : Action (List String) := do
  let (origin, content) ← fetch repository location
  let fields : Entries := [("location", .str location.render), ("origin", .str origin.name)]
  if content.isEmpty then
    .log .info logger "snippet.missing" fields
    noteMissing location
    return [standIn location.path]
  else
    .log .debug logger "snippet.extract" fields
    return contentLines content

/-- Narrows the lines of a file to those of a section. There has to be one. -/
def narrow (file name : String) (lines : List String) : Except BuildError (List String) :=
  let inside := Section.collect name lines
  if inside.isEmpty then .error (.sectionNotFound file name) else .ok inside

/-- The lines of a section of the excerpt at a location. -/
def sectionLinesAt (repository : Repository) (location : Location) (name : String) :
    Action (List String) := do
  match narrow location.render name (← linesAt repository location) with
  | .ok inside => return inside
  | .error error => .fail (.build error)

def readLocation (payload : String) : Action Location :=
  match Location.parse? payload with
  | some location => pure location
  | none => .fail (.build (.invalidLocation payload))

/-- The lines of the excerpt at a written location. -/
def lines (repository : Repository) (payload : String) : Action (List String) := do
  linesAt repository (← readLocation payload)

/-- The lines of a section of the excerpt at a written location. -/
def sectionLines (repository : Repository) (payload name : String) :
    Action (List String) := do
  sectionLinesAt repository (← readLocation payload) name

theorem narrow_eq_ok_iff {file name : String} {lines found : List String} :
    narrow file name lines = .ok found ↔ found = Section.collect name lines ∧ found ≠ [] := by
  cases inside : Section.collect name lines with
  | nil => simp +contextual [narrow, inside]
  | cons first others => simp +contextual [narrow, inside, eq_comm]

theorem narrow_eq_error_iff {file name : String} {lines : List String} {error : BuildError} :
    narrow file name lines = .error error ↔
      Section.collect name lines = [] ∧ error = .sectionNotFound file name := by
  cases inside : Section.collect name lines with
  | nil => simp [narrow, inside, eq_comm]
  | cons first others => simp [narrow, inside]

end Bindery.Excerpt
