import Bindery.Display.Wrap
import Bindery.Number.Binary64

/-!
Contract: tables with a frame, a heavy one around the heads of the columns.

Owns:
- the widths of columns: as wide as the widest line in them, with one blank of padding between a
  text and the rule beside it, except at the two outer edges;
- fitting: while the table is too wide, the widest columns whose text may be wrapped become
  narrower, down to the next widest; if that does not help, all columns become narrower alike;
- rows, which are as high as their highest cell. Heads stand at the bottom of their row and
  everything else at the top.
-/

namespace Bindery.Display

/-- A column: its head, and whether its text may be wrapped. -/
structure Column where
  head : List Char
  wraps : Bool
deriving DecidableEq, Repr

/-- A table. Every row has one text for each column. -/
structure Table where
  columns : List Column
  rows : List (List StyledText)
deriving DecidableEq, Repr

namespace Table

/-! ## Widths -/

def total (numbers : List Nat) : Nat :=
  numbers.foldl Nat.add 0

/-- Takes `remaining` away from values in proportion to ratios, and from each at most its limit. -/
def reduceFrom : (remaining ratioLeft : Nat) → List (Nat × Nat × Nat) → List Nat
  | _, _, [] => []
  | remaining, ratioLeft, (ratio, limit, value) :: rest =>
      if ratio != 0 && ratioLeft != 0 then
        let taken := min limit (Number.roundQuotient (ratio * remaining) ratioLeft)
        (value - taken) :: reduceFrom (remaining - taken) (ratioLeft - ratio) rest
      else value :: reduceFrom remaining ratioLeft rest

/-- Takes `excess` away from values in proportion to ratios, and from each at most its limit. -/
def reduce (excess : Nat) (ratios limits values : List Nat) : List Nat :=
  let ratios := ratios.zipWith (fun ratio limit => if limit = 0 then 0 else ratio) limits
  let ratioSum := total ratios
  if ratioSum = 0 then values
  else reduceFrom excess ratioSum (ratios.zip (limits.zip values))

def greatest (numbers : List Nat) : Nat :=
  numbers.foldl max 0

/-- Narrows the widest columns that may be narrowed, down to the next widest, until the sum of
all widths is small enough. -/
def narrow (limit : Nat) (flexible : List Bool) : (fuel : Nat) → List Nat → List Nat
  | 0, widths => widths
  | fuel + 1, widths =>
      let taken := total widths
      if taken ≤ limit then widths
      else
        let candidates :=
          flexible.zipWith (fun allowed width => if allowed then width else 0) widths
        let widest := greatest candidates
        let second := greatest (candidates.filter (· != widest))
        let excess := taken - limit
        let ratios := candidates.map fun width => if width = widest && width != 0 then 1 else 0
        if total ratios = 0 || widest = second then widths
        else
          let limits := widths.map fun _ => min excess (widest - second)
          narrow limit flexible fuel (reduce excess ratios limits widths)

/-- The blanks on the two sides of the column at a position. -/
def padding (count position : Nat) : Nat × Nat :=
  (if position = 0 then 0 else 1, if position + 1 = count then 0 else 1)

/-- The cells of the widest line of a text. -/
def textWidth (text : List Char) : Nat :=
  greatest ((Text.breakLines text).map cellCount)

/-- The width of a cell with its padding, at most `limit`. -/
def cellWidth (limit : Nat) (padding : Nat × Nat) (text : List Char) : Nat :=
  let extra := padding.1 + padding.2
  if limit < 1 + extra then limit else min (textWidth text + extra) limit

/-- The characters in a column, those of its head first. -/
def texts (table : Table) (position : Nat) (column : Column) : List (List Char) :=
  column.head :: table.rows.map fun row => ((row[position]?).map StyledText.text).getD []

def measure (table : Table) (limits : List Nat) : List Nat :=
  (table.columns.zip limits).zipIdx.map fun ((column, limit), position) =>
    greatest ((table.texts position column).map
      (cellWidth limit (padding table.columns.length position)))

/-- The widths of columns so that they fit into a limit. -/
def columnWidths (table : Table) (limit : Nat) : List Nat :=
  let natural := (table.measure (table.columns.map fun _ => limit)).map (max 1)
  if total natural ≤ limit then natural
  else
    let flexible := table.columns.map (·.wraps)
    let narrowed := narrow limit flexible (total natural + 1) natural
    let fitted :=
      if total narrowed ≤ limit then narrowed
      else reduce (total narrowed - limit) (narrowed.map fun _ => 1) narrowed narrowed
    table.measure fitted

/-! ## Drawing -/

/-- The lines of a cell, each exactly as wide as its column. -/
def cellLines (wraps : Bool) (padding : Nat × Nat) (width : Nat) (styled : StyledText) :
    Except DisplayFault (List (List Segment)) := do
  let inner := width - (padding.1 + padding.2)
  if inner = 0 then return []
  else
    let side (count : Nat) : List Segment := if count = 0 then [] else [blanks count]
    (← layOut (.cell wraps) inner styled).mapM fun line => do
      shapeTo width (side padding.1 ++ (← shapeTo inner line) ++ side padding.2)

/-- The frame parts of a row. -/
structure Rules where
  left : Char
  middle : Char
  right : Char
deriving DecidableEq, Repr

/-- A line across the table, `fill` running through every column. -/
def across (rules : Rules) (fill : Char) (widths : List Nat) : List Char :=
  rules.left :: [rules.middle].intercalate (widths.map fun width => List.replicate width fill) ++
    [rules.right]

/-- Fills up the lines of a cell to a height, from above or from below. -/
def fillUp (fromAbove : Bool) (height width : Nat) (lines : List (List Segment)) :
    List (List Segment) :=
  let missing := List.replicate (height - lines.length) [blanks width]
  if fromAbove then missing ++ lines else lines ++ missing

def drawRow (table : Table) (rules : Rules) (isHead : Bool) (widths : List Nat)
    (row : List StyledText) : Except DisplayFault (List (List Segment)) := do
  let count := table.columns.length
  let cells ← ((table.columns.zip widths).zip row).zipIdx.mapM
    fun (((column, width), styled), position) => do
      let lines ← cellLines column.wraps (padding count position) width styled
      return (width, lines)
  let height := max 1 (greatest (cells.map fun (_, lines) => lines.length))
  let filled ← cells.mapM fun (width, lines) =>
    (fillUp isHead height width lines).mapM (shapeTo width)
  return (List.range height).map fun index =>
    [rules.left] ::
      [[rules.middle]].intercalate (filled.map fun lines => (lines[index]?).getD []) ++
      [[rules.right]]

/-- The lines of a table on a page of a given width. -/
def render (table : Table) (pageWidth : Nat) : Except DisplayFault (List (List Segment)) := do
  let widths := table.columnWidths (pageWidth - (table.columns.length + 1))
  let heads := table.columns.map fun column => .plain column.head
  let head ← table.drawRow ⟨'┃', '┃', '┃'⟩ true widths heads
  let rows ← table.rows.mapM (table.drawRow ⟨'│', '│', '│'⟩ false widths)
  return [across ⟨'┏', '┳', '┓'⟩ '━' widths] :: head ++
    [across ⟨'┡', '╇', '┩'⟩ '━' widths] :: rows.flatten ++
    [[across ⟨'└', '┴', '┘'⟩ '─' widths]]

end Table

end Bindery.Display
