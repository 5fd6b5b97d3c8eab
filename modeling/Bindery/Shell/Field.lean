import Bindery.Shell.Session
import Bindery.Shell.Wildcard

/-!
Contract: from the characters of a word to the words that a command gets.

Owns:
- `Glyph`, a character with what may still happen to it: text of the script may be a pattern, text
  that was put in may also be cut, and quoted text stays as it is;
- cutting glyphs into fields at the separators;
- the names of files that a field with a pattern covers, in the order of their bytes.
-/

namespace Bindery.Shell

/-- A character on its way into a word. A mark is a quoted place without a character, and a gap
ends a word. -/
inductive Glyph where
  | plain (c : Char)
  | loose (c : Char)
  | quoted (c : Char)
  | mark
  | gap
deriving DecidableEq, Repr

namespace Glyph

/-- The character of a glyph as one of a pattern. -/
def patternChar? : Glyph → Option PatternChar
  | plain c => some ⟨c, false⟩
  | loose c => some ⟨c, false⟩
  | quoted c => some ⟨c, true⟩
  | _ => none

/-- The glyph of text of the script that stands where something is put in. -/
def loosened : Glyph → Glyph
  | plain c => loose c
  | other => other

end Glyph

/-- The text of glyphs in one word, with what stands between words. -/
def glyphText (joint : List Char) (glyphs : List Glyph) : List Char :=
  glyphs.flatMap fun glyph =>
    match glyph with
    | .gap => joint
    | other => (other.patternChar?.map fun c => [c.value]).getD []

/-- The characters of a pattern. A backslash that was put in protects what is behind it. -/
def patternChars : List Glyph → List PatternChar
  | [] => []
  | .loose '\\' :: next :: rest =>
      match next.patternChar? with
      | some c => { c with quoted := true } :: patternChars rest
      | none => ⟨'\\', true⟩ :: patternChars rest
  | glyph :: rest =>
      match glyph.patternChar? with
      | some c => c :: patternChars rest
      | none => patternChars rest

def glyphPattern (glyphs : List Glyph) : Wildcard :=
  .ofChars (patternChars glyphs)

/-! ## Fronts and backs -/

/-- The text of glyphs up to the first end of a word. -/
def firstWord (glyphs : List Glyph) : List Char :=
  glyphText [] (glyphs.takeWhile (· != .gap))

/-- Glyphs without the shortest or the longest front that a pattern covers. A short front ends in
the first word. -/
def cutGlyphsFront (pattern : Wildcard) (longest : Bool) (glyphs : List Glyph) : List Glyph :=
  let counts :=
    if longest then (List.range (glyphs.length + 1)).reverse
    else List.range ((glyphs.takeWhile (· != .gap)).length + 1)
  match counts.find? fun count => pattern.covers (firstWord (glyphs.take count)) with
  | some count => glyphs.drop count
  | none => glyphs

/-- Glyphs without the shortest or the longest back that a pattern covers. A long back begins in the
first word. -/
def cutGlyphsBack (pattern : Wildcard) (longest : Bool) (glyphs : List Glyph) : List Glyph :=
  let counts :=
    if longest then List.range ((glyphs.takeWhile (· != .gap)).length + 1)
    else (List.range (glyphs.length + 1)).reverse
  match counts.find? fun count => pattern.covers (firstWord (glyphs.drop count)) with
  | some count => glyphs.take count
  | none => glyphs

/-! ## Cutting -/

/-- What was found last: nothing, blanks that ended a field, or a sign that ended one. -/
inductive Cut where
  | start
  | blanks
  | sign
deriving DecidableEq, Repr

def isBlankSeparator (c : Char) : Bool :=
  c = ' ' || c = '\t' || c = '\n'

/-- Cuts glyphs into fields, behind the start of one. -/
def cutFrom (separators : List Char) : (last : Cut) → (current : Option (List Glyph)) →
    List Glyph → List (List Glyph)
  | _, none, [] => []
  | _, some field, [] => [field]
  | last, current, .gap :: rest =>
      match current with
      | some field => field :: cutFrom separators .start none rest
      | none => cutFrom separators last none rest
  | last, current, .loose c :: rest =>
      if separators.contains c then
        if isBlankSeparator c then
          match current with
          | some field => field :: cutFrom separators .blanks none rest
          | none => cutFrom separators last none rest
        else
          match current with
          | some field => field :: cutFrom separators .sign none rest
          | none =>
              if last = .blanks then cutFrom separators .sign none rest
              else [] :: cutFrom separators .sign none rest
      else cutFrom separators last (some (current.getD [] ++ [.loose c])) rest
  | last, current, glyph :: rest =>
      cutFrom separators last (some (current.getD [] ++ [glyph])) rest

def fieldsOf (separators : List Char) (glyphs : List Glyph) : List (List Glyph) :=
  cutFrom separators .start none glyphs

/-! ## Files -/

/-- Whether a glyph can make a pattern of its field. -/
def Glyph.isWild : Glyph → Bool
  | plain c => c = '*' || c = '?' || c = '['
  | loose c => c = '*' || c = '?' || c = '['
  | _ => false

def slashParts : List Glyph → List (List Glyph)
  | [] => [[]]
  | glyph :: rest =>
      if glyph.patternChar?.any (·.value = '/') then [] :: slashParts rest
      else
        match slashParts rest with
        | first :: others => (glyph :: first) :: others
        | [] => [[glyph]]

/-- The written paths in a directory that the parts of a field cover. -/
def matchesFrom (files : FileStore) : (place : Place) → (written : String) →
    List (List Glyph) → List String
  | _, written, [] => [written]
  | place, written, part :: rest =>
      let text := String.ofList (glyphText [] part)
      let joined (name : String) : String := written ++ name ++ (if rest.isEmpty then "" else "/")
      if part.any Glyph.isWild then
        let pattern := glyphPattern part
        let names := (files.children place).filter fun name =>
          let shown := octets name
          pattern.covers shown.toList &&
            (!shown.startsWith "." ||
              (part.head?.bind Glyph.patternChar?).any fun c => c.value = '.')
        let usable := names.filter fun name =>
          rest.isEmpty || files.find? (place ++ [name]) = some .directory
        let sorted := (usable.map fun name => (octets name, name)).mergeSort
          fun left right => left.1 ≤ right.1
        sorted.flatMap fun (shown, name) =>
          matchesFrom files (place ++ [name]) (joined shown) rest
      else if text.isEmpty || text = "." then matchesFrom files place (joined text) rest
      else if text = ".." then matchesFrom files place.dropLast (joined text) rest
      else
        let next := place ++ [readable text]
        match files.find? next with
        | some .directory => matchesFrom files next (joined text) rest
        | some (.file _) => if rest.isEmpty then [joined text] else []
        | none => []

/-- The words that a field becomes: the names that it covers as a pattern, or its own text. -/
def Session.named (session : Session) (field : List Glyph) : List String :=
  let text := String.ofList (glyphText [] field)
  if session.has 'f' || !field.any Glyph.isWild then [text]
  else
    let parts := slashParts field
    let found :=
      match parts with
      | [] :: below => matchesFrom session.files [] "/" below
      | _ => matchesFrom session.files session.base "" parts
    if found.isEmpty then [text] else found

def Session.words (session : Session) (glyphs : List Glyph) : List String :=
  (fieldsOf session.separators glyphs).flatMap session.named

end Bindery.Shell
