import Bindery.Text.Lines

/-!
Contract: file paths as they are written, before any file is looked at.

Owns:
- the type of paths: where they are anchored, and the names between slashes, without empty names
  and single dots; a double dot is kept, since only the file store can say what it means;
- reading and writing a path, joining two, and the parts of its last name.

A path with exactly two slashes in front keeps both; any other number is one. The suffix of a name
is what follows its last dot, when there is something on both sides of that dot.
-/

namespace Bindery

/-- What a path starts from. -/
inductive Anchor where
  | here
  | root
  | doubleRoot
deriving DecidableEq, Repr

structure Path where
  anchor : Anchor
  parts : List String
deriving DecidableEq, Repr

namespace Path

def Anchor.slashes : Anchor → String
  | .here => ""
  | .root => "/"
  | .doubleRoot => "//"

/-- The anchor of a path with that many slashes in front. -/
def anchorOf : (slashes : Nat) → Anchor
  | 0 => .here
  | 2 => .doubleRoot
  | _ => .root

/-- Whether a name between slashes counts. -/
def isName (name : List Char) : Bool :=
  !name.isEmpty && name != ['.']

def ofString (text : String) : Path :=
  let chars := text.toList
  ⟨anchorOf (chars.takeWhile (· = '/')).length,
    ((Text.splitAt '/' chars).filter isName).map String.ofList⟩

/-- Writes a path; the one without any name that starts here is a single dot. -/
def render (path : Path) : String :=
  match path.anchor, path.parts with
  | .here, [] => "."
  | anchor, parts => Anchor.slashes anchor ++ "/".intercalate parts

instance : ToString Path := ⟨render⟩

/-- The path of a name in the root of the store. -/
def ofPlace (names : List String) : Path :=
  ⟨.root, names⟩

def isAbsolute (path : Path) : Bool :=
  path.anchor != .here

/-- The second path seen from the first: an absolute one stands for itself. -/
def join (base other : Path) : Path :=
  if other.isAbsolute then other else ⟨base.anchor, base.parts ++ other.parts⟩

def joinText (base : Path) (text : String) : Path :=
  base.join (ofString text)

def parent (path : Path) : Path :=
  ⟨path.anchor, path.parts.dropLast⟩

/-- The last name, empty when there is none. -/
def name (path : Path) : String :=
  path.parts.getLast?.getD ""

/-- Cuts a name at its last dot with text on both sides. -/
def cutSuffix : List Char → Option (List Char × List Char)
  | [] => none
  | c :: rest =>
      match cutSuffix rest with
      | some (stem, extension) => some (c :: stem, extension)
      | none =>
          match rest with
          | '.' :: extension =>
              if extension.isEmpty || extension.contains '.' then none else some ([c], extension)
          | _ => none

def stem (path : Path) : String :=
  match cutSuffix path.name.toList with
  | some (before, _) => String.ofList before
  | none => path.name

/-- The suffix of the last name without its dot, empty when there is none. -/
def extension (path : Path) : String :=
  match cutSuffix path.name.toList with
  | some (_, after) => String.ofList after
  | none => ""

/-- Whether the path holds a character that no file name can. -/
def hasNull (path : Path) : Bool :=
  path.parts.any fun part => part.toList.contains '\x00'

/-- Normalises double dots, each taking back the name before it. -/
def collapse (parts : List String) : List String :=
  parts.foldl (fun taken part => if part = ".." then taken.dropLast else taken ++ [part]) []

end Path

end Bindery
