import Bindery.Value.Basic

/-!
Contract: laying one tree of settings over another.

Owns `Value.overlay`: a mapping over a mapping keeps the keys of the lower one in their places,
with the values of the upper one laid over theirs, and adds the remaining keys of the upper one
behind them. Anything else is replaced.
-/

namespace Bindery.Value

mutual

def overlay (lower : Value) : Value → Value
  | .map upper =>
      match lower with
      | .map entries => .map (overlayEntries entries upper)
      | _ => .map upper
  | upper => upper

def overlayEntries (lower : Entries) : List (String × Value) → Entries
  | [] => lower
  | (key, value) :: rest =>
      let merged :=
        match lower.find? key with
        | some old => overlay old value
        | none => value
      overlayEntries (lower.set key merged) rest

end

/-- Lays mappings over each other, the last one on top. The upper ones are put together first, so
that a mapping goes through to the lowest layer even if a layer between has no mapping there. -/
def overlayAll (layers : List Entries) : Entries :=
  layers.foldr overlayEntries []

theorem overlayEntries_nil (lower : Entries) : overlayEntries lower [] = lower := by
  simp [overlayEntries]

end Bindery.Value
