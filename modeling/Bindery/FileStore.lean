import Bindery.Fault

/-!
Contract: a tree of directories and files with modification times, and the meaning of paths in it.

Owns:
- `FileStore`, the nodes of the tree by their place; the root is always a directory;
- walking a path: every name but the last has to be a directory that is there, a double dot goes
  one level up from it, and a name has a limited length;
- the operations that a build needs: asking for the kind of a node, listing a directory, making
  directories, reading and writing files. Each fails as the file system does, and a failing one
  changes nothing but the directories it has made before.

There are no links, so a place has exactly one path without double dots.
-/

namespace Bindery

/-- The names from the root to a node. -/
abbrev Place := List String

/-- A file: its bytes, the second of its last change, and whether it may be run. -/
structure File where
  content : List UInt8
  modified : Int
  executable : Bool
deriving DecidableEq, Repr

inductive Node where
  | file (file : File)
  | directory
deriving DecidableEq, Repr

/-- The nodes of a tree, without its root. A place has one entry. -/
structure FileStore where
  entries : List (Place × Node)
deriving DecidableEq, Repr

namespace FileStore

def empty : FileStore := ⟨[]⟩

/-- The node of a place in a list of entries. -/
def lookup (place : Place) : List (Place × Node) → Option Node
  | [] => none
  | (key, node) :: rest => if key = place then some node else lookup place rest

/-- Gives a place a node: in its position if it has one, else at the end. -/
def insertInto (place : Place) (node : Node) : List (Place × Node) → List (Place × Node)
  | [] => [(place, node)]
  | (key, old) :: rest =>
      if key = place then (key, node) :: rest else (key, old) :: insertInto place node rest

def find? (store : FileStore) (place : Place) : Option Node :=
  if place = [] then some .directory else lookup place store.entries

def put (store : FileStore) (place : Place) (node : Node) : FileStore :=
  ⟨insertInto place node store.entries⟩

/-- The store without a place and everything below it. -/
def remove (store : FileStore) (place : Place) : FileStore :=
  ⟨store.entries.filter fun entry => !place.isPrefixOf entry.1⟩

/-- The store with a directory at `place` joined with every beginning of `names`, where nothing is
there yet. -/
def addDirectories (store : FileStore) (place : Place) : (names : List String) → FileStore
  | [] => store
  | name :: rest =>
      let next := place ++ [name]
      let made := if (store.find? next).isSome then store else store.put next .directory
      made.addDirectories next rest

/-- The store with a node at a place and directories above it. -/
def plant (store : FileStore) (place : Place) (node : Node) : FileStore :=
  let above := store.addDirectories [] place.dropLast
  match node with
  | .directory => above.addDirectories place.dropLast (place.drop (place.length - 1))
  | .file file => (above.remove place).put place (.file file)

def children (store : FileStore) (place : Place) : List String :=
  store.entries.filterMap fun (key, _) =>
    match key.getLast? with
    | some name => if key.dropLast = place then some name else none
    | none => none

theorem lookup_insertInto_self (place : Place) (node : Node) (entries : List (Place × Node)) :
    lookup place (insertInto place node entries) = some node := by
  induction entries with
  | nil => simp [insertInto, lookup]
  | cons entry rest inductionHypothesis =>
      obtain ⟨key, old⟩ := entry
      by_cases same : key = place
      · simp [insertInto, lookup, same]
      · simp [insertInto, lookup, same, inductionHypothesis]

theorem lookup_insertInto_of_ne {place other : Place} (node : Node) (different : other ≠ place)
    (entries : List (Place × Node)) :
    lookup other (insertInto place node entries) = lookup other entries := by
  induction entries with
  | nil => simp [insertInto, lookup, Ne.symm different]
  | cons entry rest inductionHypothesis =>
      obtain ⟨key, old⟩ := entry
      by_cases same : key = place
      · subst same
        simp [insertInto, lookup, Ne.symm different]
      · by_cases found : key = other
        · subst found
          simp [insertInto, lookup, same]
        · simp [insertInto, lookup, same, found, inductionHypothesis]

@[simp]
theorem find?_nil (store : FileStore) : store.find? [] = some .directory := by
  simp [find?]

theorem find?_put_self {store : FileStore} {place : Place} {node : Node} (h : place ≠ []) :
    (store.put place node).find? place = some node := by
  simp [find?, put, h, lookup_insertInto_self]

theorem find?_put_of_ne {store : FileStore} {place other : Place} {node : Node}
    (different : other ≠ place) : (store.put place node).find? other = store.find? other := by
  simp [find?, put, lookup_insertInto_of_ne node different]

/-! ## Walking a path -/

/-- The most bytes that a name can have. -/
def nameLimit : Nat := 255

/-- The most bytes that a written path can have. -/
def pathLimit : Nat := 4095

/-- The place that names lead to from `place`. The last name need not be there. -/
def walk (store : FileStore) (place : Place) : List String → Except IoCause Place
  | [] => .ok place
  | name :: rest =>
      match store.find? place with
      | none => .error .notFound
      | some (.file _) => .error .notDirectory
      | some .directory =>
          if name = ".." then walk store place.dropLast rest
          else if nameLimit < name.utf8ByteSize then .error .nameTooLong
          else walk store (place ++ [name]) rest

/-- The place that a path names, `base` being the working directory. -/
def locate (store : FileStore) (base : Place) (path : Path) : Except Fault Place :=
  if path.hasNull then .error .nullInPath
  else if pathLimit < path.render.utf8ByteSize then .error (.io ⟨.nameTooLong, path.render⟩)
  else
    match store.walk (if path.isAbsolute then [] else base) path.parts with
    | .ok place => .ok place
    | .error cause => .error (.io ⟨cause, path.render⟩)

def status (store : FileStore) (base : Place) (path : Path) : Except Fault Node :=
  match store.locate base path with
  | .error fault => .error fault
  | .ok place =>
      match store.find? place with
      | some node => .ok node
      | none => .error (.io ⟨.notFound, path.render⟩)

/-- The node that a path names, if any. Only a path that the file system cannot treat at all is a
fault; one with a null character names nothing. -/
def status? (store : FileStore) (base : Place) (path : Path) : Except Fault (Option Node) :=
  match store.status base path with
  | .ok node => .ok (some node)
  | .error .nullInPath => .ok none
  | .error (.io fault) =>
      if fault.cause = .notFound || fault.cause = .notDirectory then .ok none
      else .error (.io fault)
  | .error fault => .error fault

def exists? (store : FileStore) (base : Place) (path : Path) : Except Fault Bool :=
  (store.status? base path).map Option.isSome

def isFile (store : FileStore) (base : Place) (path : Path) : Except Fault Bool :=
  (store.status? base path).map fun node =>
    match node with
    | some (.file _) => true
    | _ => false

def isDirectory (store : FileStore) (base : Place) (path : Path) : Except Fault Bool :=
  (store.status? base path).map fun node =>
    match node with
    | some .directory => true
    | _ => false

/-- The second at which every directory counts as changed. The tree keeps no times of directories;
they are made while the program runs, later than the files of a book were written. -/
def directoryTime : Int := 1767225600

/-- The second at which a path was last changed. -/
def modified (store : FileStore) (base : Place) (path : Path) : Except Fault Int :=
  (store.status base path).map fun node =>
    match node with
    | .file file => file.modified
    | .directory => directoryTime

/-! ## Reading and writing -/

def read (store : FileStore) (base : Place) (path : Path) : Except Fault (List UInt8) :=
  match store.status base path with
  | .error fault => .error fault
  | .ok (.file file) => .ok file.content
  | .ok .directory => .error (.io ⟨.isDirectory, path.render⟩)

/-- Writes a file at the second `now`; its directory has to be there. -/
def write (store : FileStore) (base : Place) (now : Int) (path : Path) (content : List UInt8) :
    Except Fault FileStore :=
  match store.locate base path with
  | .error fault => .error fault
  | .ok place =>
      match store.find? place with
      | some .directory => .error (.io ⟨.isDirectory, path.render⟩)
      | some (.file old) => .ok (store.put place (.file ⟨content, now, old.executable⟩))
      | none => .ok (store.put place (.file ⟨content, now, false⟩))

def makeDirectory (store : FileStore) (base : Place) (path : Path) : Except Fault FileStore :=
  match store.locate base path with
  | .error fault => .error fault
  | .ok place =>
      match store.find? place with
      | some _ => .error (.io ⟨.alreadyThere, path.render⟩)
      | none => .ok (store.put place .directory)

/-- What is left of a refusal to make a directory: nothing, when the directory is there. -/
def settleRefusal (store : FileStore) (base : Place) (path : Path) (fault : IoFault) :
    Except Fault Unit :=
  match store.isDirectory base path with
  | .error other => .error other
  | .ok true => .ok ()
  | .ok false => .error (.io fault)

/-- Makes a directory that may already be there; its parent has to be. -/
def ensureDirectory (store : FileStore) (base : Place) (path : Path) :
    Except Fault Unit × FileStore :=
  match store.makeDirectory base path with
  | .ok made => (.ok (), made)
  | .error (.io fault) =>
      if fault.cause = .notFound then (.error (.io fault), store)
      else (store.settleRefusal base path fault, store)
  | .error fault => (.error fault, store)

/-- Makes the directory with the given names, last one first, and its parents. -/
def makeTree (store : FileStore) (base : Place) (anchor : Anchor) :
    (reversed : List String) → Except Fault Unit × FileStore
  | [] => store.ensureDirectory base ⟨anchor, []⟩
  | name :: above =>
      let path : Path := ⟨anchor, (name :: above).reverse⟩
      match store.makeDirectory base path with
      | .ok made => (.ok (), made)
      | .error (.io fault) =>
          if fault.cause = .notFound then
            match makeTree store base anchor above with
            | (.error other, made) => (.error other, made)
            | (.ok (), made) => made.ensureDirectory base path
          else (store.settleRefusal base path fault, store)
      | .error fault => (.error fault, store)

/-- Makes a directory and its parents; all of them may already be there. -/
def makeDirectories (store : FileStore) (base : Place) (path : Path) :
    Except Fault Unit × FileStore :=
  store.makeTree base path.anchor path.parts.reverse

/-- The path without double dots: the working directory in front of a relative path, and every
double dot taking back the name before it. -/
def resolve (base : Place) (path : Path) : Except Fault Path :=
  if path.hasNull then .error .nullInPath
  else .ok (.ofPlace (Path.collapse (if path.isAbsolute then path.parts else base ++ path.parts)))

/-! ## Comparing two stores -/

/-- The files of `after` that `before` lacks or holds with another content or time. -/
def changes (before after : FileStore) : List (Place × File) :=
  after.entries.filterMap fun (place, node) =>
    match node with
    | .directory => none
    | .file file =>
        match before.find? place with
        | some (.file old) =>
            if old.content = file.content ∧ old.modified = file.modified then none
            else some (place, file)
        | _ => some (place, file)

/-- The directories of `after` that `before` lacks. -/
def newDirectories (before after : FileStore) : List Place :=
  after.entries.filterMap fun (place, node) =>
    match node with
    | .file _ => none
    | .directory => if before.find? place = some .directory then none else some place

end FileStore

end Bindery
