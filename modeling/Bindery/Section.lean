import Bindery.Text.Blank

/-!
Contract: named sections of a source file, between a begin and an end marker.

Owns:
- the form of a marker line: blanks, `//` or `#`, blanks, the keyword of the marker and the name
  of the section in braces, then anything;
- `collect`, the lines strictly between the markers of one section.

Names are compared character for character. Pairs of markers with the same name add up, an end
without a begin and a second begin change nothing, and a section without an end runs to the end of
the file. Marker lines of the section are never part of it; those of other sections are.
-/

namespace Bindery.Section

open Bindery.Text

/-- The two ends of a section. -/
inductive Mark where
  | start
  | stop
deriving DecidableEq, Repr

/-- The keyword of a marker, up to the opening brace. -/
def Mark.keyword : Mark → List Char
  | .start => "FILE_SECTION_BEGIN\x7b".toList
  | .stop => "FILE_SECTION_END\x7b".toList

/-- The text of a marker behind the blanks of the comment. -/
def Mark.label (mark : Mark) (name : List Char) : List Char :=
  mark.keyword ++ name ++ ['\x7d']

/-- What the sign that opens a comment leaves. -/
def afterSign : List Char → Option (List Char)
  | '/' :: '/' :: rest => some rest
  | '#' :: rest => some rest
  | _ => none

/-- What a marker leaves of the line that opens with it. -/
def afterMarker (mark : Mark) (name line : List Char) : Option (List Char) :=
  (afterSign (trimStart line)).bind fun comment =>
    let body := trimStart comment
    if (mark.label name).isPrefixOf body then some (body.drop (mark.label name).length) else none

/-- The number of characters up to the end of the marker that opens the line. -/
def markerLength (mark : Mark) (name line : String) : Option Nat :=
  (afterMarker mark name.toList line.toList).map fun rest => line.toList.length - rest.length

/-- Whether the line is a marker of the section. -/
def isMarker (mark : Mark) (name line : String) : Bool :=
  (afterMarker mark name.toList line.toList).isSome

/-- The lines inside the section, `inside` telling whether the first line is. -/
def collectFrom (name : String) : (inside : Bool) → List String → List String
  | _, [] => []
  | inside, line :: rest =>
      if isMarker .start name line then collectFrom name true rest
      else if isMarker .stop name line then collectFrom name false rest
      else if inside then line :: collectFrom name inside rest
      else collectFrom name inside rest

def collect (name : String) (lines : List String) : List String :=
  collectFrom name false lines

theorem collectFrom_sublist (name : String) (inside : Bool) (lines : List String) :
    (collectFrom name inside lines).Sublist lines := by
  induction lines generalizing inside with
  | nil => simp [collectFrom]
  | cons line rest inductionHypothesis =>
      simp only [collectFrom]
      split
      · exact (inductionHypothesis true).cons line
      · split
        · exact (inductionHypothesis false).cons line
        · split
          · exact (inductionHypothesis inside).cons_cons line
          · exact (inductionHypothesis inside).cons line

end Bindery.Section
