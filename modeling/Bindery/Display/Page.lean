import Bindery.Display.Markup
import Bindery.Display.Wrap

/-!
Contract: printing texts on a page of a given width.

Owns:
- `Part`, what one print is put together from: plain text, or text with tags;
- one print: its parts with a blank between them, set in lines, with a line end;
- the width of a page. A page without any room shows nothing.
-/

namespace Bindery.Display

/-- A part of what is printed: a text that may have a style as a whole, or a text with tags. -/
inductive Part where
  | plain (text : String) (style : Option String)
  | markup (text : String)
deriving DecidableEq, Repr

def Part.read : Part → Except DisplayFault StyledText
  | plain text style =>
      let shown := Markup.dropControls text.toList
      .ok ⟨shown, (style.map fun name => [⟨0, shown.length, some name⟩]).getD []⟩
  | markup text => Markup.read text.toList

/-- The text that parts show, with a blank between two of them. -/
def joinParts (parts : List Part) : Except DisplayFault StyledText := do
  let texts ← parts.mapM Part.read
  return .joinWith (.plain [' ']) texts

/-- Lines with their ends, each cropped to the width. -/
def showLines (width : Nat) (lines : List (List Segment)) : Except DisplayFault String := do
  let lines ← lines.mapM (cropTo width)
  return String.ofList (lines.flatMap fun line => line.flatten ++ ['\n'])

def reportWidth : Nat := 120

/-- The width of a page that was asked for; none and zero stand for the usual one. -/
def pageWidth (asked : Option Int) : Int :=
  match asked with
  | none => reportWidth
  | some width => if width = 0 then reportWidth else width

def printLine (width : Int) (styled : StyledText) : Except DisplayFault String := do
  if width < 1 then return ""
  else showLines width.toNat (← layOut .running width.toNat styled)

def print (width : Int) (parts : List Part) : Except DisplayFault String := do
  printLine width (← joinParts parts)

def printAll (width : Int) : List String → Except DisplayFault String
  | [] => .ok ""
  | text :: rest => do
      let first ← print width [.markup text]
      let others ← printAll width rest
      return first ++ others

end Bindery.Display
