import Bindery.Display.Fault
import Bindery.Display.Width

/-!
Contract: texts measured in terminal cells.

Owns:
- `cellCount`, the cells of a text;
- `graphemes`, the parts of a text that are not cut apart: a joiner ties the characters on its two
  sides together, a variation selector may widen what is before it, and a character without a cell
  belongs to the one before it;
- `cutAt` and `fitTo`, which bring a text to a number of cells, and `chop`, which cuts it into
  lines. A part that a cut would go through is a blank on the near side of it.

A joiner in front of a text ties it to nothing for the cells of the whole text, but its own part
goes on. Such a text may have fewer cells in its parts than as a whole, and cutting it may fail.
-/

namespace Bindery.Display

/-- Ties the characters on its two sides together. -/
def joiner : Char := '\u200d'

/-- Asks for the picture of the character before it. -/
def pictureSelector : Char := '\ufe0f'

/-- The cells of a text behind `last`, the last character with cells of its own. -/
def cellCountFrom : (last : Option Char) → List Char → Nat
  | _, [] => 0
  | last, c :: rest =>
      if c = joiner then
        match rest with
        | [] => 0
        | _ :: more => cellCountFrom last more
      else if c = pictureSelector then
        match last with
        | some wide => (if hasWidePicture wide then 1 else 0) + cellCountFrom none rest
        | none => cellCountFrom none rest
      else
        let cells := charCells c
        cells + cellCountFrom (if cells = 0 then last else some c) rest

def cellCount (text : List Char) : Nat :=
  cellCountFrom none text

/-- A part of a text that is not cut apart. -/
structure Grapheme where
  text : List Char
  cells : Nat
deriving DecidableEq, Repr

/-- Adds characters to the last part, the parts being in reverse. -/
def extendLast (more : List Char) (extraCells : Nat) : List Grapheme → List Grapheme
  | [] => [⟨more, extraCells⟩]
  | last :: before => ⟨last.text ++ more, last.cells + extraCells⟩ :: before

/-- The parts of a text, in reverse, behind parts that are in reverse too. -/
def graphemesFrom : (done : List Grapheme) → (last : Option Char) → List Char → List Grapheme
  | done, _, [] => done
  | done, last, c :: rest =>
      if c = joiner then
        if done.isEmpty then graphemesFrom (extendLast [c] 0 done) last rest
        else
          match rest with
          | [] => extendLast [c] 0 done
          | next :: more => graphemesFrom (extendLast [c, next] 0 done) last more
      else if c = pictureSelector then
        if !done.isEmpty && (last.map hasWidePicture).getD false then
          graphemesFrom (extendLast [c] 1 done) none rest
        else graphemesFrom (extendLast [c] 0 done) last rest
      else
        let cells := charCells c
        if cells = 0 then graphemesFrom (extendLast [c] 0 done) last rest
        else graphemesFrom (⟨[c], cells⟩ :: done) (some c) rest

def graphemes (text : List Char) : List Grapheme :=
  (graphemesFrom [] none text).reverse

def takeCells : (cells : Nat) → List Grapheme → List Char
  | 0, _ => []
  | _, [] => []
  | cells, part :: rest =>
      if cells < part.cells then [' '] else part.text ++ takeCells (cells - part.cells) rest

def partCells (parts : List Grapheme) : Nat :=
  parts.foldl (fun total part => total + part.cells) 0

/-- The first cells of a text. The parts of the text have to reach as far as the cut. -/
def cutAt (cells : Nat) (text : List Char) : Except DisplayFault (List Char) :=
  let parts := graphemes text
  let reached := partCells parts
  if cells = 0 then .ok []
  else if reached = 0 then .error .cutOfNothing
  else if reached < cells then .error .cutBeyondEnd
  else if reached = cells then .ok text
  else .ok (takeCells cells parts)

def blanks (count : Nat) : List Char :=
  List.replicate count ' '

def fitTo (cells : Nat) (text : List Char) : Except DisplayFault (List Char) :=
  let own := cellCount text
  if own = cells then .ok text
  else if own < cells then .ok (text ++ blanks (cells - own))
  else cutAt cells text

/-- Cuts parts into lines of at most `width` cells, `line` being the line so far. A part that is
wider than a line has one of its own. -/
def chopFrom (width : Nat) : (line : List Char) → (cells : Nat) → List Grapheme → List (List Char)
  | line, cells, [] => if cells = 0 then [] else [line]
  | line, cells, part :: rest =>
      if width < cells + part.cells then line :: chopFrom width part.text part.cells rest
      else chopFrom width (line ++ part.text) (cells + part.cells) rest

/-- Cuts a text into lines of at most `width` cells. -/
def chop (width : Nat) (text : List Char) : List (List Char) :=
  chopFrom width [] 0 (graphemes text)

theorem length_blanks (count : Nat) : (blanks count).length = count := by
  simp [blanks]

end Bindery.Display
