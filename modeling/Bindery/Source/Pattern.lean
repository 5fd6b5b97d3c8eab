import Bindery.FileStore

/-!
Contract: patterns for the names and paths of files.

Owns:
- the meaning of a pattern for names: a star stands for any characters, a question mark for one, a
  set in brackets for one of its characters or, after an exclamation mark, for one of the others. A
  bracket that is not closed stands for itself, as every other character does;
- patterns for paths: patterns for names between slashes. Two stars stand for any number of
  directories, and may not be a part of a name; a slash at the end asks for a directory;
- `select`, the paths below a directory that such a pattern stands for.
-/

namespace Bindery.Source

inductive Element where
  | any
  | one
  | set (negated : Bool) (ranges : List (Char × Char))
  | exact (c : Char)
deriving DecidableEq, Repr

def rangesOf : List Char → List (Char × Char)
  | low :: '-' :: high :: rest => (low, high) :: rangesOf rest
  | c :: rest => (c, c) :: rangesOf rest
  | [] => []

/-- Cuts a set behind its opening bracket: its content and what follows the closing one. A closing
bracket that comes first belongs to the set. -/
def cutSet (text : List Char) : Option (Bool × List Char × List Char) :=
  let (negated, body) :=
    match text with
    | '!' :: rest => (true, rest)
    | _ => (false, text)
  let (first, rest) :=
    match body with
    | ']' :: more => ([']'], more)
    | _ => ([], body)
  match rest.dropWhile (· != ']') with
  | [] => none
  | _ :: left => some (negated, first ++ rest.takeWhile (· != ']'), left)

/-- Reads a pattern; `skip` characters belong to the last set. -/
def elementsFrom : (skip : Nat) → List Char → List Element
  | _, [] => []
  | skip + 1, _ :: rest => elementsFrom skip rest
  | 0, '*' :: rest => .any :: elementsFrom 0 rest
  | 0, '?' :: rest => .one :: elementsFrom 0 rest
  | 0, '[' :: rest =>
      match cutSet rest with
      | none => .exact '[' :: elementsFrom 0 rest
      | some (negated, content, left) =>
          .set negated (rangesOf content) :: elementsFrom (rest.length - left.length) rest
  | 0, c :: rest => .exact c :: elementsFrom 0 rest

def elements (pattern : String) : List Element :=
  elementsFrom 0 pattern.toList

/-- Whether an element other than a star stands for a character. -/
def Element.accepts : Element → Char → Bool
  | .any, _ => false
  | .one, _ => true
  | .set negated ranges, c =>
      ranges.any (fun range => decide (range.1 ≤ c) && decide (c ≤ range.2)) != negated
  | .exact d, c => c = d

/-- Whether some end of the name, the name itself included, is accepted. -/
def someTail (accepts : List Char → Bool) : List Char → Bool
  | [] => accepts []
  | c :: rest => accepts (c :: rest) || someTail accepts rest

def accepts : List Element → List Char → Bool
  | [], name => name.isEmpty
  | .any :: rest, name => someTail (accepts rest) name
  | element :: rest, name =>
      match name with
      | [] => false
      | c :: more => element.accepts c && accepts rest more

/-! ## Paths -/

inductive PathStep where
  | anyDepth
  | named (name : String)
  | matching (elements : List Element)
  | here
deriving DecidableEq, Repr

/-- Whether two stars stand next to each other. -/
def hasDoubleStar : List Char → Bool
  | '*' :: '*' :: _ => true
  | _ :: rest => hasDoubleStar rest
  | [] => false

def isPattern (name : List Char) : Bool :=
  name.any fun c => c = '*' || c = '?' || c = '['

/-- The step for a name between slashes, unless two stars are a part of it. -/
def stepOf (name : List Char) : Option PathStep :=
  if name = ['*', '*'] then some .anyDepth
  else if hasDoubleStar name then none
  else if isPattern name then some (.matching (elements (String.ofList name)))
  else some (.named (String.ofList name))

/-- The steps of a pattern for paths. Empty names and single dots do not count. -/
def pathSteps (pattern : String) : Option (List PathStep) :=
  let chars := pattern.toList
  let steps := ((Text.splitAt '/' chars).filter Path.isName).mapM stepOf
  if chars.getLast? = some '/' then steps.map (· ++ [.here]) else steps

def below (path : Path) (names : List String) : Path :=
  ⟨path.anchor, path.parts ++ names⟩

def reached (store : FileStore) (base : Place) (step : PathStep) (onlyDirectories : Bool)
    (path : Path) : Except Fault (List Path) :=
  match step with
  | .here => .ok [path]
  | .named name => do
      let next := below path [name]
      let found ←
        if onlyDirectories then store.isDirectory base next else store.exists? base next
      return if found then [next] else []
  | .matching elements => do
      let place ← store.locate base path
      let names := (store.children place).filter fun name =>
        accepts elements name.toList &&
          (!onlyDirectories || store.find? (place ++ [name]) = some .directory)
      return names.map fun name => below path [name]
  | .anyDepth => do
      let place ← store.locate base path
      let inside := store.entries.filterMap fun (key, node) =>
        if node = .directory && place.isPrefixOf key && place.length < key.length then
          some (below path (key.drop place.length))
        else none
      return path :: inside

/-- The paths that steps lead to, each once behind two stars. -/
def select (store : FileStore) (base : Place) : List PathStep → Path → Except Fault (List Path)
  | [], path => .ok [path]
  | step :: rest, path => do
      let next ← reached store base step (!rest.isEmpty) path
      let found ← next.mapM fun path => select store base rest path
      return if step = .anyDepth then found.flatten.eraseDups else found.flatten

end Bindery.Source
