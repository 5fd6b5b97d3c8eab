import Bindery.Toml.Scalar

/-!
Contract: configuration files as trees of values.

Owns:
- values: scalars, arrays over several lines, and tables on one line;
- keys, which may be bare or quoted, and may be paths of names between dots;
- statements: an entry, a table header, a header that adds a table to an array;
- what may not be said twice: a table is opened once, a dotted key does not reach into a table that
  a header opened, and an array or table written as a value is closed for good.

A text that is not such a file has a fault, and `read` does not say where; a whole number with more
digits than are taken is a fault of its own. The first fault counts.
-/

namespace Bindery.Toml

abbrev Key := List String

inductive FileFault where
  | malformed
  | tooManyDigits (count : Nat)
deriving DecidableEq, Repr

/-- An answer that is expected, or else the text is malformed. -/
def orMalformed {α : Type} (answer : Option α) : Except FileFault α :=
  match answer with
  | some value => .ok value
  | none => .error .malformed

/-! ## Keys -/

/-- A character of a bare name. -/
def isBare (c : Char) : Bool :=
  c.isAlphanum || c = '-' || c = '_'

def readName (text : List Char) : Reading String :=
  match text with
  | [] => none
  | c :: rest =>
      if isBare c then some (String.ofList (text.takeWhile isBare), text.dropWhile isBare)
      else if c = '\'' then (readLiteral rest).map fun (name, left) => (String.ofList name, left)
      else if c = '"' then (readBasic false rest).map fun (name, left) => (String.ofList name, left)
      else none

def readKeyFrom : (fuel : Nat) → List Char → Reading Key
  | 0, _ => none
  | fuel + 1, text =>
      match readName text with
      | none => none
      | some (name, rest) =>
          match skipSpaces rest with
          | '.' :: more =>
              (readKeyFrom fuel (skipSpaces more)).map fun (names, left) => (name :: names, left)
          | left => some ([name], left)

def readKey (text : List Char) : Reading Key :=
  readKeyFrom (text.length + 1) text

/-! ## Trees -/

/-- Changes the table that a key leads to, making the tables on the way. Where `intoArrays` holds,
an array of tables stands for its last table. -/
def changeTable (intoArrays : Bool) (change : Entries → Option Entries) :
    Key → Entries → Option Entries
  | [], entries => change entries
  | name :: rest, entries =>
      match entries.find? name with
      | none =>
          (changeTable intoArrays change rest []).map fun inner => entries.set name (.map inner)
      | some (.map inner) =>
          (changeTable intoArrays change rest inner).map fun inner => entries.set name (.map inner)
      | some (.list items) =>
          match items.getLast? with
          | some (.map inner) =>
              if intoArrays then
                (changeTable intoArrays change rest inner).map fun inner =>
                  entries.set name (.list (items.dropLast ++ [.map inner]))
              else none
          | _ => none
      | some _ => none

/-- Adds an entry whose key is not there yet. -/
def addEntry (name : String) (value : Value) (entries : Entries) : Option Entries :=
  if entries.has name then none else some (entries.set name value)

/-- Adds an empty table to an array of tables. -/
def addTable (name : String) (entries : Entries) : Option Entries :=
  match entries.find? name with
  | none => some (entries.set name (.list [.map []]))
  | some (.list items) => some (entries.set name (.list (items ++ [.map []])))
  | some _ => none

/-- Whether a value is closed for later statements. -/
def isClosed : Value → Bool
  | .list _ => true
  | .map _ => true
  | _ => false

/-- Whether a key lies at or below one of the keys. -/
def isBelow (keys : List Key) (key : Key) : Bool :=
  keys.any fun closed => closed.isPrefixOf key

/-! ## Values -/

def skipComment (text : List Char) : Option (List Char) :=
  match text with
  | '#' :: rest =>
      if (rest.takeWhile (· != '\n')).all (isAllowed false) then some (rest.dropWhile (· != '\n'))
      else none
  | _ => some text

/-- Drops blanks, line ends and comments inside an array. -/
def skipArrayGapFrom : (fuel : Nat) → List Char → Option (List Char)
  | 0, text => some text
  | fuel + 1, text =>
      match text.dropWhile fun c => isSpace c || c = '\n' with
      | '#' :: rest =>
          match skipComment ('#' :: rest) with
          | none => none
          | some left => skipArrayGapFrom fuel left
      | left => some left

/-- Drops blanks, line ends and comments inside an array. -/
def skipArrayGap (text : List Char) : Option (List Char) :=
  skipArrayGapFrom (text.length + 1) text

/-- Reads a whole decimal number or one with a fraction. -/
def readLimitedDecimal (text : List Char) : Except FileFault (Value × List Char) := do
  let (value, left) ← orMalformed ((readDecimal text).orElse fun _ => readSpecial text)
  match value with
  | .int number =>
      let count := (Nat.toDigits 10 number.natAbs).length
      if Number.digitLimit < count then .error (.tooManyDigits count) else .ok (value, left)
  | _ => .ok (value, left)

def readScalar (text : List Char) : Except FileFault (Value × List Char) :=
  if "true".toList.isPrefixOf text then .ok (.bool true, text.drop 4)
  else if "false".toList.isPrefixOf text then .ok (.bool false, text.drop 5)
  else
    match readMoment text with
    | some reading => orMalformed reading
    | none =>
        match readBased text with
        | some reading => .ok reading
        | none => readLimitedDecimal text

mutual

def readValue : (fuel : Nat) → List Char → Except FileFault (Value × List Char)
  | 0, _ => .error .malformed
  | fuel + 1, text =>
      match text with
      | [] => .error .malformed
      | c :: rest =>
          if c = '"' || c = '\'' then
            (orMalformed (readText text)).map fun (value, left) => (.str value, left)
          else if c = '[' then
            match skipArrayGap rest with
            | none => .error .malformed
            | some (']' :: left) => .ok (.list [], left)
            | some body => (readItems fuel body).map fun (items, left) => (.list items, left)
          else if c = '\x7b' then
            match skipSpaces rest with
            | '\x7d' :: left => .ok (.map [], left)
            | body =>
                (readMembers fuel [] [] body).map fun (entries, left) => (.map entries, left)
          else readScalar text

/-- Reads the items of an array up to its closing bracket. -/
def readItems : (fuel : Nat) → List Char → Except FileFault (List Value × List Char)
  | 0, _ => .error .malformed
  | fuel + 1, text =>
      match readValue fuel text with
      | .error fault => .error fault
      | .ok (item, rest) =>
          match skipArrayGap rest with
          | some (']' :: left) => .ok ([item], left)
          | some (',' :: more) =>
              match skipArrayGap more with
              | some (']' :: left) => .ok ([item], left)
              | some body =>
                  (readItems fuel body).map fun (items, left) => (item :: items, left)
              | none => .error .malformed
          | _ => .error .malformed

/-- Reads the members of a table on one line, `closed` being the keys written as whole values. -/
def readMembers : (fuel : Nat) → (closed : List Key) → Entries → List Char →
    Except FileFault (Entries × List Char)
  | 0, _, _, _ => .error .malformed
  | fuel + 1, closed, entries, text =>
      match readKey text with
      | some (key, '=' :: afterKey) =>
          match readValue fuel (skipSpaces afterKey) with
          | .error fault => .error fault
          | .ok (value, rest) =>
              let added :=
                if isBelow closed key then none
                else changeTable false (addEntry (key.getLast?.getD "") value) key.dropLast entries
              match added with
              | none => .error .malformed
              | some entries =>
                  match skipSpaces rest with
                  | '\x7d' :: left => .ok (entries, left)
                  | ',' :: more =>
                      let closed := if isClosed value then key :: closed else closed
                      readMembers fuel closed entries (skipSpaces more)
                  | _ => .error .malformed
      | _ => .error .malformed

end

/-! ## Documents -/

/-- A document so far: its entries, the table of the last header, the tables that headers or dotted
keys opened, those that dotted keys opened since that header, and the keys of whole values. -/
structure Draft where
  entries : Entries
  header : Key
  opened : List Key
  pending : List Key
  closed : List Key

namespace Draft

/-- The draft in which what dotted keys opened counts as opened. -/
def settle (draft : Draft) : Draft :=
  { draft with opened := draft.pending ++ draft.opened, pending := [] }

def openTable (draft : Draft) (key : Key) : Option Draft :=
  if draft.opened.contains key || isBelow draft.closed key then none
  else
    (changeTable true some key draft.entries).map fun entries =>
      { draft with entries := entries, header := key, opened := key :: draft.opened }

/-- Adds a table to an array, and forgets what was said about the table before it. -/
def openArrayTable (draft : Draft) (key : Key) : Option Draft :=
  if isBelow draft.closed key then none
  else
    (changeTable true (addTable (key.getLast?.getD "")) key.dropLast draft.entries).map
      fun entries =>
        { draft with
          entries := entries
          header := key
          opened := key :: draft.opened.filter fun other => !key.isPrefixOf other
          closed := draft.closed.filter fun other => !key.isPrefixOf other }

/-- The tables that a dotted key goes through, below the table of the last header. -/
def tablesOf (draft : Draft) (key : Key) : List Key :=
  (List.range key.dropLast.length).map fun count => draft.header ++ key.take (count + 1)

/-- Adds an entry to the table of the last header. -/
def add (draft : Draft) (key : Key) (value : Value) : Option Draft :=
  let tables := draft.tablesOf key
  let parent := draft.header ++ key.dropLast
  if tables.any draft.opened.contains || isBelow draft.closed parent then none
  else
    (changeTable true (addEntry (key.getLast?.getD "") value) parent draft.entries).map
      fun entries =>
        { draft with
          entries := entries
          pending := tables ++ draft.pending
          closed := if isClosed value then (draft.header ++ key) :: draft.closed else draft.closed }

end Draft

def readStatement (draft : Draft) (text : List Char) : Except FileFault (Draft × List Char) :=
  match text with
  | '[' :: '[' :: rest =>
      match readKey (skipSpaces rest) with
      | some (key, ']' :: ']' :: left) =>
          (orMalformed (draft.settle.openArrayTable key)).map fun draft => (draft, left)
      | _ => .error .malformed
  | '[' :: rest =>
      match readKey (skipSpaces rest) with
      | some (key, ']' :: left) =>
          (orMalformed (draft.settle.openTable key)).map fun draft => (draft, left)
      | _ => .error .malformed
  | _ =>
      match readKey text with
      | some (key, '=' :: rest) => do
          let body := skipSpaces rest
          let (value, left) ← readValue (body.length + 1) body
          let draft ← orMalformed (draft.add key value)
          return (draft, left)
      | _ => .error .malformed

/-- Reads the statements of a document, each on a line of its own. -/
def readStatements : (fuel : Nat) → Draft → List Char → Except FileFault Draft
  | 0, draft, _ => .ok draft
  | fuel + 1, draft, text =>
      match skipSpaces text with
      | [] => .ok draft
      | '\n' :: rest => readStatements fuel draft rest
      | c :: rest =>
          match if c = '#' then .ok (draft, c :: rest) else readStatement draft (c :: rest) with
          | .error fault => .error fault
          | .ok (draft, left) =>
              match skipComment (skipSpaces left) with
              | some [] => .ok draft
              | some ('\n' :: more) => readStatements fuel draft more
              | _ => .error .malformed

def read (text : String) : Except FileFault Entries :=
  let chars := text.toList
  (readStatements (chars.length + 1) ⟨[], [], [], [], []⟩ chars).map Draft.entries

end Bindery.Toml
