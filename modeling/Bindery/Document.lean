import Bindery.Manuscript

/-!
Contract: typesetting top-level documents.

Owns:
- the temporary manuscript of a document, which is rendered on every run, so that it shows the
  excerpts as they are;
- the engine's command, and when it runs: when the build demands it, or when the document is newer
  than what was typeset.
-/

namespace Bindery

/-- What typesetting depends on: the rendering of manuscripts, and the engine. -/
structure Typesetter where
  press : Press
  engine : String

namespace Typesetter

def logger : String := "bookctl.services.compiler"

/-- The end of the name of a temporary manuscript. -/
def temporarySuffix : String := ".tmp.latex"

def target (typesetter : Typesetter) (document : Path) : Path :=
  typesetter.press.targetDirectory.joinText (document.stem ++ ".pdf")

def command (typesetter : Typesetter) (job : String) (manuscript : Path) : Command where
  args := [
    typesetter.engine,
    "-output-directory=" ++ typesetter.press.targetDirectory.render,
    "-jobname=" ++ job,
    "-halt-on-error",
    manuscript.render]
  directory := none

def failure (document : Path) (result : Completion) : BuildError :=
  .toolFailed ("Error building PDF file " ++ document.render) document.render result.args
    result.status (result.lastOutput Completion.reportedLines)

/-- Typesets a document if the build demands it or the document is newer than its artifact, and
answers whether the engine ran. -/
def typeset (typesetter : Typesetter) (document : Path) (demanded : Bool) : Action Bool := do
  let job := document.stem
  let manuscript ← typesetter.press.publish document (job ++ temporarySuffix)
  let target := typesetter.target document
  let due ← if demanded then pure true else Staleness.isStaleFor document target
  if due then
    .log .info logger "document.compile"
      [("source", .str document.render), ("target", .str target.render)]
    let result ← .run (typesetter.command job manuscript)
    if result.ok then
      return true
    else
      .log .info logger "document.failed"
        [("source", .str document.render), ("returncode", .int result.status)]
      .fail (.build (failure document result))
  else
    .log .debug logger "document.current" [("source", .str document.render)]
    return false

end Typesetter

end Bindery
