import Bindery.Text.Blank

/-!
Contract: versioned places of a source repository, written `branch:path`.

Owns: the type of locations, their written form, and reading one back. The branch ends at the
first colon, so the path may hold further colons, and neither part is checked any further.

Does not own: the error that a place with a bad form becomes (`Bindery.Fault`).
-/

namespace Bindery

/-- A file of the source repository, on a branch. -/
structure Location where
  branch : String
  path : String
deriving DecidableEq, Repr

namespace Location

def render (location : Location) : String :=
  location.branch ++ ":" ++ location.path

instance : ToString Location := ⟨render⟩

def cutAtColon : List Char → Option (List Char × List Char)
  | [] => none
  | c :: rest =>
      if c = ':' then some ([], rest)
      else (cutAtColon rest).map fun (before, after) => (c :: before, after)

/-- Reads a location from characters that carry no blanks around it: a nonempty branch, a colon,
and a path on one line. -/
def ofTrimmed? (text : List Char) : Option Location :=
  match cutAtColon text with
  | none => none
  | some (branch, path) =>
      if branch.isEmpty || path.contains '\n' then none
      else some ⟨String.ofList branch, String.ofList path⟩

/-- Reads a location; blanks around it do not count. -/
def parse? (payload : String) : Option Location :=
  ofTrimmed? (Text.trim payload.toList)

theorem cutAtColon_eq_none_iff {text : List Char} : cutAtColon text = none ↔ ':' ∉ text := by
  induction text with
  | nil => simp [cutAtColon]
  | cons c rest inductionHypothesis =>
      by_cases colon : c = ':'
      · simp [cutAtColon, colon]
      · simp [cutAtColon, colon, inductionHypothesis, Ne.symm colon]

theorem eq_append_of_cutAtColon {text before after : List Char}
    (h : cutAtColon text = some (before, after)) :
    text = before ++ ':' :: after ∧ ':' ∉ before := by
  induction text generalizing before after with
  | nil => simp [cutAtColon] at h
  | cons c rest inductionHypothesis =>
      by_cases colon : c = ':'
      · simp only [cutAtColon, colon, ↓reduceIte, Option.some.injEq, Prod.mk.injEq] at h
        obtain ⟨rfl, rfl⟩ := h
        simp [colon]
      · simp only [cutAtColon, colon, ↓reduceIte, Option.map_eq_some_iff] at h
        obtain ⟨⟨front, back⟩, cut, equal⟩ := h
        simp only [Prod.mk.injEq] at equal
        obtain ⟨rfl, rfl⟩ := equal
        obtain ⟨rfl, clean⟩ := inductionHypothesis cut
        simp [clean, Ne.symm colon]

/-- Trimming a written location does not change what it is read as. -/
theorem parse?_strip (payload : String) : parse? (Text.strip payload) = parse? payload := by
  unfold parse? Text.strip
  rw [String.toList_ofList, Text.trim_trim]

end Location

end Bindery
