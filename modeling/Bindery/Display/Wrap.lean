import Bindery.Display.StyledText
import Bindery.Text.Lines

/-!
Contract: setting a text in lines of a given width.

Owns:
- tabs, which reach to the next multiple of eight cells;
- breaking at words: a word keeps the blanks around it, and is as wide as it is without those
  behind it; it goes to the next line if it does not fit;
- words that fit on no line, which are folded or cut off with an ellipsis;
- blanks at the end of a line, which are dropped as far as they stand beyond the width.

The spans of a text are divided with it.
-/

namespace Bindery.Display

/-- What happens to a word that is wider than a line. -/
inductive Overflow where
  | fold
  | ellipsis
deriving DecidableEq, Repr

structure Setting where
  overflow : Overflow
  wraps : Bool
  fills : Bool
deriving DecidableEq, Repr

/-- How text is set outside of tables. -/
def Setting.running : Setting := ⟨.fold, true, false⟩

/-- How text is set in a cell of a table. -/
def Setting.cell (wraps : Bool) : Setting := ⟨.ellipsis, wraps, true⟩

/-! ## Tabs -/

def tabStop : Nat := 8

/-- The positions behind the tabs of a text, the first character of which stands at `position`. -/
def tabStopsFrom : (position : Nat) → List Char → List Nat
  | _, [] => []
  | position, c :: rest =>
      if c = '\t' then (position + 1) :: tabStopsFrom (position + 1) rest
      else tabStopsFrom (position + 1) rest

/-- Puts blanks for the tabs at the ends of parts, `column` being the cells before them. -/
def expandParts : (column : Nat) → List StyledText → List StyledText
  | _, [] => []
  | column, part :: rest =>
      if part.text.getLast? = some '\t' then
        let blanked : StyledText := { part with text := part.text.dropLast ++ [' '] }
        let reached := column + cellCount blanked.text
        let missing := (tabStop - reached % tabStop) % tabStop
        blanked.extend missing :: expandParts (reached + missing) rest
      else part :: expandParts (column + cellCount part.text) rest

def expandTabs (line : StyledText) : StyledText :=
  if line.text.contains '\t' then
    .join (expandParts 0 (line.divide (tabStopsFrom 0 line.text)))
  else line

/-! ## Words -/

/-- The words of a text with the blanks around them: those in front belong to the first word, and
all others to the word before them. -/
def wordsFrom : (fuel : Nat) → List Char → List (List Char)
  | 0, _ => []
  | fuel + 1, text =>
      let front := text.takeWhile Text.isBlank
      let afterFront := text.dropWhile Text.isBlank
      let body := afterFront.takeWhile fun c => !Text.isBlank c
      let afterBody := afterFront.dropWhile fun c => !Text.isBlank c
      if body.isEmpty then []
      else
        (front ++ body ++ afterBody.takeWhile Text.isBlank) ::
          wordsFrom fuel (afterBody.dropWhile Text.isBlank)

/-- The words of a text with the blanks around them. -/
def words (text : List Char) : List (List Char) :=
  wordsFrom text.length text

/-! ## Breaking -/

/-- A piece of a line, and whether a new line starts with it. -/
structure Chunk where
  startsLine : Bool
  text : List Char
deriving DecidableEq, Repr

/-- The chunks of a folded word, `position` being the place of the first one. -/
def foldedChunks : (position : Nat) → List (List Char) → List Chunk
  | _, [] => []
  | position, piece :: rest => ⟨position != 0, piece⟩ :: foldedChunks (position + piece.length) rest

/-- Decides for words in order where a new line starts, behind `used` cells of a line. -/
def chunksFrom (width : Nat) (overflow : Overflow) :
    (position used : Nat) → List (List Char) → List Chunk
  | _, _, [] => []
  | position, used, word :: rest =>
      let next := position + word.length
      let bare := cellCount (Text.trimEnd word)
      if used + bare ≤ width then
        ⟨false, word⟩ :: chunksFrom width overflow next (used + cellCount word) rest
      else if width < bare then
        match overflow with
        | .fold =>
            let pieces := chop width word
            foldedChunks position pieces ++
              chunksFrom width overflow next ((pieces.getLast?.map cellCount).getD used) rest
        | .ellipsis =>
            ⟨position != 0, word⟩ :: chunksFrom width overflow next (cellCount word) rest
      else if used != 0 && position != 0 then
        ⟨true, word⟩ :: chunksFrom width overflow next (cellCount word) rest
      else ⟨false, word⟩ :: chunksFrom width overflow next used rest

/-- The positions at which lines start, except for the first one. -/
def breaksFrom : (position : Nat) → List Chunk → List Nat
  | _, [] => []
  | position, chunk :: rest =>
      let others := breaksFrom (position + chunk.text.length) rest
      if chunk.startsLine then position :: others else others

/-- The positions at which a line is broken because it is too wide. -/
def breaks (width : Nat) (overflow : Overflow) (line : List Char) : List Nat :=
  breaksFrom 0 (chunksFrom width overflow 0 0 (words line))

/-- Drops blanks at the end as far as they stand beyond a number of characters. -/
def dropEndBeyond (size : Nat) (line : StyledText) : StyledText :=
  let blank := (line.text.reverse.takeWhile Text.isBlank).length
  let dropped := min blank (line.text.length - size)
  if dropped = 0 then line else line.keep (line.text.length - dropped)

def truncate (setting : Setting) (width : Nat) (line : StyledText) :
    Except DisplayFault StyledText :=
  let cells := cellCount line.text
  if width < cells then
    match setting.overflow with
    | .fold => (fitTo width line.text).map line.replace
    | .ellipsis => (fitTo (width - 1) line.text).map fun text => line.replace (text ++ ['…'])
  else if setting.fills then .ok { line with text := line.text ++ blanks (width - cells) }
  else .ok line

/-- The positions before and behind the line ends of a text. -/
def lineEndsFrom : (position : Nat) → List Char → List Nat
  | _, [] => []
  | position, c :: rest =>
      if c = '\n' then position :: (position + 1) :: lineEndsFrom (position + 1) rest
      else lineEndsFrom (position + 1) rest

def linesOf (styled : StyledText) : List StyledText :=
  (styled.divide (lineEndsFrom 0 styled.text)).filter fun line => line.text != ['\n']

def layOutLine (setting : Setting) (width : Nat) (line : StyledText) :
    Except DisplayFault (List StyledText) :=
  let line := expandTabs line
  let pieces :=
    if setting.wraps then line.divide (breaks width setting.overflow line.text) else [line]
  pieces.mapM fun piece => truncate setting width (dropEndBeyond width piece)

/-- Sets a text; every line consists of its segments. -/
def layOut (setting : Setting) (width : Nat) (styled : StyledText) :
    Except DisplayFault (List (List Segment)) := do
  let lines ← (linesOf styled).mapM (layOutLine setting width)
  let lines := lines.flatten
  lines.forM StyledText.checkStyles
  return lines.map StyledText.segments

end Bindery.Display
