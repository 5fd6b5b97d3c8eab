import Bindery.Directive
import Bindery.Excerpt
import Bindery.SourceMark
import Bindery.Staleness
import Bindery.Substitution

/-!
Contract: from the text of a manuscript to the text that is typeset.

Owns:
- the rendering of a text, in seven passes over the whole of it: file directives, section
  directives, path tokens, fold marks, editor lines, section lines, and the user's substitutions.
  A later pass sees what an earlier one inserted;
- writing a rendered manuscript into the target directory, which happens only when all of it could
  be rendered;
- fragments, manuscripts that keep their name and are written anew only when they are stale.
-/

namespace Bindery

/-- What the rendering of manuscripts depends on. -/
structure Press where
  repository : Repository
  targetDirectory : Path
  imagesDirectory : Path
  substitutes : List (String × String)

namespace Press

def logger : String := "bookctl.services.preprocess"

/-- The table that puts directories in place of path tokens. -/
def pathTokens (target images : String) : List (String × String) := [
  ("GRAPHICS_OUTPUT_DIR", target), ("TEX_PREPROCESS_DIR", target), ("IMAGES_DIR", images)]

/-- Deletes the annotations that have no place in a book. -/
def eraseMarks (text : List Char) : List Char :=
  SourceMark.eraseSectionLines (SourceMark.eraseEditorLines (SourceMark.eraseFoldMarks text))

/-- The passes after the directives. -/
def finish (press : Press) (text : List Char) : List Char :=
  let tokens := pathTokens press.targetDirectory.render press.imagesDirectory.render
  Substitution.apply press.substitutes (eraseMarks (Substitution.apply tokens text))

/-- The text that is typeset for a manuscript's text. -/
def render (press : Press) (text : String) : Action String := do
  let included ← Directive.expandFiles (Excerpt.lines press.repository) text.toList
  let expanded ← Directive.expandSections (Excerpt.sectionLines press.repository) included
  return String.ofList (press.finish expanded)

/-- Renders a manuscript into the target directory under a name, and answers where it is. -/
def publish (press : Press) (source : Path) (name : String) : Action Path := do
  let rendered ← press.render (← .readText source)
  let written ← .writeText (press.targetDirectory.joinText name) rendered
  .log .debug logger "preprocess.write"
    [("source", .str source.render), ("output", .str written.render)]
  return written

/-- Where a fragment is written: under its own name in the target directory. -/
def fragmentPath (press : Press) (fragment : Path) : Path :=
  press.targetDirectory.joinText fragment.name

/-- Renders a fragment if it is stale, and answers whether it was. -/
def refreshFragment (press : Press) (fragment : Path) : Action Bool := do
  let target := press.fragmentPath fragment
  if ← Staleness.isStaleFor fragment target then
    .log .info logger "fragment.preprocess"
      [("source", .str fragment.render), ("target", .str target.render)]
    let _ ← press.publish fragment fragment.name
    return true
  else
    .log .debug logger "fragment.current" [("source", .str fragment.render)]
    return false

end Press

end Bindery
