import Bindery.Text.Digit
import Bindery.Text.Scan

/-!
Contract: the annotations of source files that have no place in a book.

Owns the recognisers of three kinds of annotation, and their deletion:
- fold marks, `//` with a brace and one decimal digit;
- editor lines, a `//` comment that opens with `vim:`, to the end of the line;
- section lines, a `//` or `#` comment that names the begin or the end of a section, with the
  spaces before it and the rest of the line.

Does not own: the meaning of section markers (`Bindery.Section`), which is stricter about what may
stand before a marker and freer about the blanks inside it.
-/

namespace Bindery.SourceMark

open Bindery.Text

/-- A space or a tab. -/
def isPadding (c : Char) : Bool :=
  c = ' ' || c = '\t'

/-- What is left of a text after the rest of its first line and that line's end. -/
def afterLine (text : List Char) : List Char :=
  match text.dropWhile (· != '\n') with
  | [] => []
  | _ :: rest => rest

/-- Turns "what is left" into "how many characters were taken". -/
def takenFrom (text : List Char) (rest : Option (List Char)) : Option (Unit × Nat) :=
  rest.map fun left => ((), text.length - left.length)

def foldMark : Recogniser Unit := fun text =>
  match text with
  | '/' :: '/' :: brace :: digit :: _ =>
      if (brace = '\x7b' || brace = '\x7d') && isDecimalDigit digit then some ((), 4) else none
  | _ => none

def afterEditorLine (text : List Char) : Option (List Char) :=
  match text with
  | '/' :: '/' :: c :: rest =>
      if isPadding c then
        let body := rest.dropWhile isPadding
        if "vim:".toList.isPrefixOf body then some (afterLine (body.drop 4)) else none
      else none
  | _ => none

def editorLine : Recogniser Unit := fun text =>
  takenFrom text (afterEditorLine text)

def afterCommentMark : List Char → Option (List Char)
  | '/' :: '/' :: rest => some rest
  | '#' :: rest => some rest
  | _ => none

def afterSectionKeyword (text : List Char) : Option (List Char) :=
  let begins := "FILE_SECTION_BEGIN\x7b".toList
  let ends := "FILE_SECTION_END\x7b".toList
  if begins.isPrefixOf text then some (text.drop begins.length)
  else if ends.isPrefixOf text then some (text.drop ends.length)
  else none

/-- What a section line leaves. The name ends at the first closing brace, on whatever line. -/
def afterSectionLine (text : List Char) : Option (List Char) :=
  (afterCommentMark (text.dropWhile (· = ' '))).bind fun comment =>
    (afterSectionKeyword (comment.dropWhile isPadding)).bind fun name =>
      match name.dropWhile (· != '\x7d') with
      | [] => none
      | _ :: rest => some (afterLine rest)

def sectionLine : Recogniser Unit := fun text =>
  takenFrom text (afterSectionLine text)

def eraseFoldMarks (text : List Char) : List Char := erase foldMark text

def eraseEditorLines (text : List Char) : List Char := erase editorLine text

def eraseSectionLines (text : List Char) : List Char := erase sectionLine text

end Bindery.SourceMark
