import Bindery.Display.Handler
import Bindery.Display.StyledText
import Bindery.Text.Scan

/-!
Contract: texts with style tags between square brackets, and the styled texts that they stand for.

Owns:
- what is a tag: an opening bracket, a small letter or one of three signs, and everything up to the
  next closing bracket if no opening one comes before it;
- escapes: an odd backslash before a tag makes it text, and pairs of backslashes before it count
  for one; a backslash before a bracket that starts no tag is dropped;
- the matching of tags. A tag that closes what is not open is a fault, and so is one that closes a
  tag for an event whose handler cannot be read; what stays open is closed at the end.

Control characters that would move the cursor are not shown.
-/

namespace Bindery.Display.Markup

/-- A tag and the number of backslashes before it. -/
structure Tag where
  escapes : Nat
  content : List Char
deriving DecidableEq, Repr

def startsTag (c : Char) : Bool :=
  ('a' ≤ c && c ≤ 'z') || c = '#' || c = '/' || c = '@'

def recognise : Text.Recogniser Tag := fun text =>
  let escapes := (text.takeWhile (· = '\\')).length
  match text.drop escapes with
  | '[' :: first :: rest =>
      let body := rest.takeWhile fun c => c != ']' && c != '['
      if startsTag first && (rest.drop body.length).head? = some ']' then
        some (⟨escapes, first :: body⟩, escapes + 1 + 1 + body.length + 1)
      else none
  | _ => none

/-- The name of a tag: what comes before its parameters. -/
def Tag.name (tag : Tag) : List Char :=
  tag.content.takeWhile (· != '=')

/-- The parameters of a tag: what comes behind the first equals sign. -/
def Tag.parameters (tag : Tag) : Option (List Char) :=
  match tag.content.dropWhile (· != '=') with
  | [] => none
  | _ :: rest => some rest

/-- A tag that has been opened: the position in the text, its name and its parameters. -/
structure OpenTag where
  start : Nat
  name : String
  parameters : Option (List Char)
deriving DecidableEq, Repr

def OpenTag.style (tag : OpenTag) : String :=
  match tag.parameters with
  | none => tag.name
  | some text => tag.name ++ " " ++ String.ofList text

/-- What has been read of a text: its characters and its spans, each last one first, the number of
characters, and the open tags, innermost first. -/
structure Draft where
  reversed : List Char
  length : Nat
  spans : List Span
  opened : List OpenTag
deriving DecidableEq, Repr

/-- Whether a control character moves the cursor: bell, backspace, vertical tab, form feed, and
carriage return. -/
def movesCursor (c : Char) : Bool :=
  let code := c.toNat
  code == 7 || code == 8 || code == 11 || code == 12 || code == 13

/-- Drops what moves the cursor. -/
def dropControls (text : List Char) : List Char :=
  text.filter fun c => !movesCursor c

namespace Draft

def add (draft : Draft) (text : List Char) : Draft :=
  let shown := dropControls text
  { draft with reversed := shown.reverse ++ draft.reversed, length := draft.length + shown.length }

/-- Ends the span of a tag here. -/
def addSpan (draft : Draft) (tag : OpenTag) (style : Option String) : Draft :=
  { draft with spans := ⟨tag.start, draft.length, style⟩ :: draft.spans }

/-- Removes the tag that was opened last under a name. -/
def takeNamed (name : String) : List OpenTag → Option (OpenTag × List OpenTag)
  | [] => none
  | tag :: rest =>
      if tag.name = name then some (tag, rest)
      else (takeNamed name rest).map fun (found, others) => (found, tag :: others)

/-- The tag that a closing tag closes, and the other open ones. -/
def taken (draft : Draft) (name : List Char) : Except DisplayFault (OpenTag × List OpenTag) := do
  let found ←
    if name.isEmpty then
      pure (match draft.opened with
        | [] => none
        | tag :: rest => some (tag, rest))
    else
      pure (takeNamed (← StyleName.normalise name) draft.opened)
  match found with
  | some answer => return answer
  | none => .error .unmatchedTag

def close (draft : Draft) (name : List Char) : Except DisplayFault Draft := do
  let (tag, opened) ← draft.taken name
  let closed := { draft with opened := opened }
  if tag.name.startsWith "@" then
    let parameters := tag.parameters.getD []
    if parameters.isEmpty || Handler.isRight parameters then return closed.addSpan tag none
    else .error .badHandler
  else
    return closed.addSpan tag (some tag.style)

def step (draft : Draft) (tag : Tag) : Except DisplayFault Draft :=
  match tag.name with
  | '/' :: name => draft.close (Text.trim name)
  | name => do
      let normal ← StyleName.normalise name
      return { draft with opened := ⟨draft.length, normal, tag.parameters⟩ :: draft.opened }

/-- The text that has been read, what is still open being closed. -/
def finish (draft : Draft) : StyledText :=
  let closed := draft.opened.foldl (fun draft tag => draft.addSpan tag (some tag.style)) draft
  ⟨closed.reversed.reverse, closed.spans.mergeSort fun left right => left.start ≤ right.start⟩

end Draft

def readFrom : Draft → List (Text.Piece Tag) → Except DisplayFault Draft
  | draft, [] => .ok draft
  | draft, .plain '\\' :: .plain '[' :: rest => readFrom (draft.add ['[']) rest
  | draft, .plain c :: rest => readFrom (draft.add [c]) rest
  | draft, .found tag :: rest =>
      let draft := draft.add (List.replicate (tag.escapes / 2) '\\')
      if tag.escapes % 2 = 1 then readFrom (draft.add ('[' :: tag.content ++ [']'])) rest
      else
        match draft.step tag with
        | .ok draft => readFrom draft rest
        | .error fault => .error fault

def read (text : List Char) : Except DisplayFault StyledText :=
  if text.contains '[' then
    (readFrom ⟨[], 0, [], []⟩ (Text.scan recognise text)).map Draft.finish
  else .ok (.plain (dropControls text))

/-- A text that holds no bracket shows itself, except for what moves the cursor. -/
theorem read_of_no_bracket {text : List Char} (h : '[' ∉ text) :
    read text = .ok (.plain (dropControls text)) := by
  simp [read, h]

end Bindery.Display.Markup
