import Bindery.World

/-!
Contract: when an artifact has to be made again.

Owns the one rule: an artifact is stale when it is not there, or was last changed strictly before
its source. Times are whole seconds, and they are the only state that a build keeps.
-/

namespace Bindery.Staleness

/-- Whether an artifact is stale for a source of the given time. -/
def isStaleAt (sourceTime : Int) (artifact : Path) : Action Bool := do
  if ← .observe fun world => world.files.exists? world.base artifact then
    let time ← .observe fun world => world.files.modified world.base artifact
    return time < sourceTime
  else
    return true

/-- Whether an artifact is stale for a source, which has to be there. -/
def isStaleFor (source artifact : Path) : Action Bool := do
  let time ← .observe fun world => world.files.modified world.base source
  isStaleAt time artifact

end Bindery.Staleness
