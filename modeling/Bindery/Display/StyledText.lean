import Bindery.Display.Cells
import Bindery.Display.StyleName
import Bindery.Text.Blank

/-!
Contract: texts of which some stretches have a style.

Owns:
- `StyledText`, the characters of a text and its spans, and what happens to the spans when a text is
  divided, cut at its end, extended or joined to others;
- `segments`, the stretches of a text between the ends of its spans. The cells of a text that is
  shown are those of its segments, so a joiner at the end of a segment ties it to nothing;
- `cropTo` and `shapeTo`, which bring a line of segments to a width.
-/

namespace Bindery.Display

/-- A stretch of a text from one position up to another, and the name of its style unless it is not
a style by name. -/
structure Span where
  start : Nat
  stop : Nat
  style : Option String
deriving DecidableEq, Repr

structure StyledText where
  text : List Char
  spans : List Span
deriving DecidableEq, Repr

/-- A stretch of characters that is shown at once. -/
abbrev Segment := List Char

namespace Span

/-- A span in a text that has been put behind others. -/
def shift (distance : Nat) (span : Span) : Span :=
  { span with start := span.start + distance, stop := span.stop + distance }

/-- The part of a span between two positions; nothing if there is no character in it. -/
def between (start stop : Nat) (span : Span) : Option Span :=
  let first := span.start - start
  let last := min (span.stop - start) (stop - start)
  if first < last then some { span with start := first, stop := last } else none

/-- The part of a span in a text of a new length; nothing if it starts behind its end. -/
def clip (length : Nat) (span : Span) : Option Span :=
  if span.start < length then some { span with stop := min length span.stop } else none

end Span

namespace StyledText

def plain (text : List Char) : StyledText :=
  ⟨text, []⟩

/-- The parts of a text between positions in ascending order. A text that is not divided keeps
its empty spans. -/
def divide (positions : List Nat) (styled : StyledText) : List StyledText :=
  if positions.isEmpty then [styled]
  else
    let stops := positions ++ [styled.text.length]
    ((0 :: positions).zip stops).map fun (start, stop) =>
      ⟨(styled.text.drop start).take (stop - start),
        styled.spans.filterMap (Span.between start stop)⟩

/-- Puts texts one behind the other, the first of them behind `length` characters. -/
def joinFrom : (length : Nat) → List StyledText → StyledText
  | _, [] => ⟨[], []⟩
  | length, first :: rest =>
      let others := joinFrom (length + first.text.length) rest
      ⟨first.text ++ others.text, first.spans.map (Span.shift length) ++ others.spans⟩

def join (texts : List StyledText) : StyledText :=
  joinFrom 0 texts

/-- Puts texts one behind the other, with a text between two of them. -/
def joinWith (separator : StyledText) (texts : List StyledText) : StyledText :=
  join (texts.intersperse separator)

def keep (length : Nat) (styled : StyledText) : StyledText :=
  ⟨styled.text.take length, styled.spans.filterMap (Span.clip length)⟩

/-- Gives a text other characters. Spans are clipped if the text becomes shorter. -/
def replace (text : List Char) (styled : StyledText) : StyledText :=
  if text.length < styled.text.length then
    ⟨text, styled.spans.filterMap (Span.clip text.length)⟩
  else { styled with text := text }

/-- Puts blanks behind a text; spans up to its end cover them too. -/
def extend (count : Nat) (styled : StyledText) : StyledText :=
  ⟨styled.text ++ blanks count,
    styled.spans.map fun span =>
      if styled.text.length ≤ span.stop then { span with stop := span.stop + count } else span⟩

/-- The positions strictly inside a text at which a span starts or stops. -/
def borders (styled : StyledText) : List Nat :=
  let ends := styled.spans.flatMap fun span => [span.start, span.stop]
  (ends.filter fun position => 0 < position && position < styled.text.length).mergeSort.eraseDups

/-- The characters between positions, the first of them standing at `start`. -/
def cutFrom : (start : Nat) → List Nat → List Char → List Segment
  | _, [], text => if text.isEmpty then [] else [text]
  | start, position :: rest, text =>
      text.take (position - start) :: cutFrom position rest (text.drop (position - start))

def segments (styled : StyledText) : List Segment :=
  cutFrom 0 styled.borders styled.text

/-- Reads the names of the styles of a text, which may be a fault. -/
def checkStyles (styled : StyledText) : Except DisplayFault Unit :=
  styled.spans.forM fun span =>
    match span.style with
    | some name => (StyleName.read name.toList).map fun _ => ()
    | none => .ok ()

theorem flatten_cutFrom (start : Nat) (positions : List Nat) (text : List Char) :
    (cutFrom start positions text).flatten = text := by
  induction positions generalizing start text with
  | nil =>
      simp only [cutFrom]
      split
      · rename_i empty
        simp [List.isEmpty_iff.1 empty]
      · simp
  | cons position rest inductionHypothesis =>
      simp [cutFrom, inductionHypothesis]

theorem flatten_segments (styled : StyledText) : styled.segments.flatten = styled.text :=
  flatten_cutFrom 0 styled.borders styled.text

end StyledText

/-! ## Lines of segments -/

def lineCells (line : List Segment) : Nat :=
  line.foldl (fun total segment => total + cellCount segment) 0

/-- Keeps the segments of a line up to a width, behind `used` cells of it. The segment that reaches
the width is fitted to what is left, and what follows it is dropped. -/
def cropFrom (width : Nat) : (used : Nat) → List Segment → Except DisplayFault (List Segment)
  | _, [] => .ok []
  | used, segment :: rest =>
      let cells := cellCount segment
      if used + cells < width then
        (cropFrom width (used + cells) rest).map (segment :: ·)
      else (fitTo (width - used) segment).map fun fitted => [fitted]

/-- Brings a line that is too wide down to a width. -/
def cropTo (width : Nat) (line : List Segment) : Except DisplayFault (List Segment) :=
  if width < lineCells line then cropFrom width 0 line else .ok line

def shapeTo (width : Nat) (line : List Segment) : Except DisplayFault (List Segment) :=
  let cells := lineCells line
  if cells < width then .ok (line ++ [blanks (width - cells)]) else cropTo width line

theorem cropTo_eq_self {width : Nat} {line : List Segment} (h : lineCells line ≤ width) :
    cropTo width line = .ok line := by
  simp [cropTo, Nat.not_lt.2 h]

end Bindery.Display
