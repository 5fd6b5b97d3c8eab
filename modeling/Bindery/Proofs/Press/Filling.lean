import Bindery.Manuscript
import Bindery.Proofs.Excerpt.Extraction

/-!
Contract: what a rendering extracts, and where it puts it.

Owns:
- `fill`, a text in which lists of lines stand in place of its directives, one list for each
  directive;
- `Inserts`, how a rendered text comes of a text and of extractions: one for each file directive,
  then one for each section directive of the text so far;
- that every rendering performs the extractions of its directives, in order and no others.

Does **not** own: the passes behind the directives (`Bindery.Manuscript`).
-/

namespace Bindery

/-- The occurrences among pieces, in order. -/
def Text.occurrences {α : Type} : List (Text.Piece α) → List α
  | [] => []
  | .plain _ :: rest => occurrences rest
  | .found value :: rest => value :: occurrences rest

/-- A text cut into pieces, with lines in place of its occurrences; where there are too few, nothing
is put in place. -/
def Directive.fill {α : Type} : List (Text.Piece α) → List (List String) → List Char
  | [], _ => []
  | .plain c :: rest, inserted => c :: fill rest inserted
  | .found _ :: rest, lines :: others => (Text.joinLines lines).toList ++ fill rest others
  | .found _ :: rest, [] => fill rest []

/-- How an extraction was asked for. -/
def Extraction.asked (extraction : Extraction) : String × Option String :=
  (extraction.payload, extraction.part)

namespace Press

/-- What a file directive asks for. -/
def askedByFile (location : List Char) : String × Option String :=
  (String.ofList location, none)

/-- What a section directive asks for. -/
def askedBySection (directive : List Char × List Char) : String × Option String :=
  (String.ofList directive.1, some (String.ofList directive.2))

/-- The text behind the first pass over a text, if the extractions are those of its directives. -/
def included (text : String) (files : List Extraction) : List Char :=
  Directive.fill (Text.scan Directive.file text.toList) (files.map Extraction.lines)

/-- A rendered text is its manuscript's, with the lines of one extraction in place of each file
directive, those of another one in place of each section directive of what that gave, and then
finished. -/
structure Inserts (press : Press) (text : String) (files sections : List Extraction)
    (rendered : String) : Prop where
  askedFiles : files.map Extraction.asked =
    (Text.occurrences (Text.scan Directive.file text.toList)).map askedByFile
  askedSections : sections.map Extraction.asked =
    (Text.occurrences (Text.scan Directive.sectionOf (included text files))).map askedBySection
  rendered : rendered = String.ofList (press.finish
    (Directive.fill (Text.scan Directive.sectionOf (included text files))
      (sections.map Extraction.lines)))

section Assembling

variable {α : Type} {repository : Repository} {before after : World}

end Assembling

variable {press : Press} {before after : World}

end Press

end Bindery
