import Bindery.Staleness

/-!
Contract: rendering diagrams.

Owns: the renderer, which is named by the extension of the diagram's file, its command, and when it
runs: when the diagram is newer than its rendering.
-/

namespace Bindery.Diagram

def logger : String := "bookctl.services.diagrams"

def target (directory source : Path) : Path :=
  directory.joinText (source.stem ++ ".pdf")

def command (source target : Path) : Command where
  args := [source.extension, "-Tpdf", "-o", target.render, source.render]
  directory := none

def failure (source : Path) (result : Completion) : BuildError :=
  .toolFailed ("Error building graph file " ++ source.render) source.render result.args
    result.status (result.lastOutput Completion.reportedLines)

/-- Renders a diagram into a directory if it is newer than its rendering, and answers whether the
renderer ran. -/
def render (directory diagram : Path) : Action Bool := do
  let source := (← Action.workingDirectory).join diagram
  let artifact := target directory source
  if ← Staleness.isStaleFor source artifact then
    .log .info logger "diagram.render"
      [("source", .str source.render), ("target", .str artifact.render)]
    let result ← .run (command source artifact)
    if result.ok then
      return true
    else
      .log .info logger "diagram.failed"
        [("source", .str source.render), ("returncode", .int result.status)]
      .fail (.build (failure source result))
  else
    .log .debug logger "diagram.current" [("source", .str source.render)]
    return false

end Bindery.Diagram
