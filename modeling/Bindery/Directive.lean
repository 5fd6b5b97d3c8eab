import Bindery.Text.Blank
import Bindery.Text.Lines
import Bindery.Text.Scan

/-!
Contract: the directives of a manuscript that stand for excerpts of the source repository.

Owns:
- the form of the two directives, `INCLUDE_SOURCE_FILE{location}` and
  `INCLUDE_SOURCE_FILE_SECTION{location,section}`;
- their recognisers, which answer the blank-trimmed arguments;
- their expansion: one pass from left to right, one excerpt for each directive, and inserted text
  is not searched again.

A directive ends at the first closing brace and needs nonempty arguments. The section is what
follows the last comma that has text on both sides, so a location may hold commas.
-/

namespace Bindery.Directive

open Bindery.Text

def fileKeyword : List Char := "INCLUDE_SOURCE_FILE\x7b".toList

/-- Opens a directive for one section of a file. -/
def sectionKeyword : List Char := "INCLUDE_SOURCE_FILE_SECTION\x7b".toList

/-- The text up to the first closing brace, when there is one. -/
def beforeBrace : List Char → Option (List Char)
  | [] => none
  | c :: rest => if c = '}' then some [] else (beforeBrace rest).map (c :: ·)

/-- The payload of a directive that opens with `keyword`: the nonempty text up to the first
closing brace. -/
def payloadAfter (keyword : List Char) (text : List Char) : Option (List Char) :=
  if keyword.isPrefixOf text then
    match beforeBrace (text.drop keyword.length) with
    | some (c :: rest) => some (c :: rest)
    | _ => none
  else none

/-- The number of characters of a directive with the given payload. -/
def length (keyword payload : List Char) : Nat :=
  keyword.length + payload.length + 1

/-- Cuts a payload at its last comma that has text on both sides. -/
def cutAtLastComma : List Char → Option (List Char × List Char)
  | [] => none
  | c :: rest =>
      match cutAtLastComma rest with
      | some (before, after) => some (c :: before, after)
      | none =>
          match rest with
          | [] => none
          | next :: after => if next = ',' && !after.isEmpty then some ([c], after) else none

/-- Recognises a file directive; answers the location. -/
def file : Recogniser (List Char) := fun text =>
  (payloadAfter fileKeyword text).map fun payload =>
    (trim payload, length fileKeyword payload)

/-- Recognises a section directive; answers the location and the section. -/
def sectionOf : Recogniser (List Char × List Char) := fun text =>
  (payloadAfter sectionKeyword text).bind fun payload =>
    (cutAtLastComma payload).map fun (location, name) =>
      ((trim location, trim name), length sectionKeyword payload)

/-- Puts the lines of an excerpt in place of every file directive. -/
def expandFiles {m : Type → Type} [Monad m] (extract : String → m (List String))
    (text : List Char) : m (List Char) :=
  assembleM (fun location => do
    let lines ← extract (String.ofList location)
    return (joinLines lines).toList) (scan file text)

/-- Puts the lines of an excerpt in place of every section directive. -/
def expandSections {m : Type → Type} [Monad m] (extract : String → String → m (List String))
    (text : List Char) : m (List Char) :=
  assembleM (fun (location, name) => do
    let lines ← extract (String.ofList location) (String.ofList name)
    return (joinLines lines).toList) (scan sectionOf text)

theorem beforeBrace_eq_some_iff {text payload : List Char} :
    beforeBrace text = some payload ↔ '}' ∉ payload ∧ (payload ++ ['}']) <+: text := by
  induction text generalizing payload with
  | nil =>
      constructor
      · simp [beforeBrace]
      · rintro ⟨_, closing⟩
        simp at closing
  | cons c rest inductionHypothesis =>
      by_cases brace : c = '}'
      · subst brace
        cases payload with
        | nil => simp [beforeBrace]
        | cons first more =>
            simp only [beforeBrace, ↓reduceIte, Option.some.injEq, List.nil_eq, reduceCtorEq,
              false_iff, List.cons_append, List.cons_prefix_cons, List.mem_cons, not_or]
            rintro ⟨⟨different, _⟩, same, _⟩
            exact different same.symm
      · cases payload with
        | nil =>
            simp only [beforeBrace, brace, ↓reduceIte, Option.map_eq_some_iff, reduceCtorEq,
              and_false, exists_false, false_iff, List.nil_append, List.cons_prefix_cons,
              List.nil_prefix, and_true, not_and]
            exact fun _ same => brace same.symm
        | cons first more =>
            simp only [beforeBrace, brace, ↓reduceIte, Option.map_eq_some_iff, List.cons.injEq,
              List.cons_append, List.cons_prefix_cons, List.mem_cons, not_or]
            constructor
            · rintro ⟨found, located, rfl, rfl⟩
              obtain ⟨clean, closing⟩ := inductionHypothesis.1 located
              exact ⟨⟨fun same => brace same.symm, clean⟩, rfl, closing⟩
            · rintro ⟨⟨_, clean⟩, rfl, closing⟩
              exact ⟨more, inductionHypothesis.2 ⟨clean, closing⟩, rfl, rfl⟩

end Bindery.Directive
