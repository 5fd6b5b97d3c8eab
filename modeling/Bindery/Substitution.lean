import Bindery.Text.Scan

/-!
Contract: tables of literal substitutions, and their application in order.

Owns: `apply`, which replaces every occurrence of the first key, then in the result every
occurrence of the second key, and so on. An entry with an empty key does nothing.
-/

namespace Bindery.Substitution

def applyOne (text : List Char) (entry : String × String) : List Char :=
  Text.replaceAll entry.1.toList entry.2.toList text

/-- Applies the entries of a table one after another. -/
def apply (table : List (String × String)) (text : List Char) : List Char :=
  table.foldl applyOne text

/-- The table in which a repeated key keeps its first place and takes its last value. -/
def tableOf (pairs : List (String × String)) : List (String × String) :=
  pairs.foldl (fun table pair =>
    if table.any (·.1 = pair.1) then
      table.map fun entry => if entry.1 = pair.1 then (entry.1, pair.2) else entry
    else table ++ [pair]) []

@[simp]
theorem apply_nil (text : List Char) : apply [] text = text := rfl

theorem apply_cons (entry : String × String) (table : List (String × String))
    (text : List Char) : apply (entry :: table) text = apply table (applyOne text entry) := rfl

theorem applyOne_of_empty_key {entry : String × String} (h : entry.1 = "") (text : List Char) :
    applyOne text entry = text := by
  simp [applyOne, h]

end Bindery.Substitution
