import Bindery.Value.Basic

/-!
Contract: values as JSON text.

Owns:
- the compact form on one line, and the pretty form with two blanks per level;
- the escapes: quotation mark, backslash, and control characters, by name where JSON has one.
  Everything else stands as it is.

A date is written as a text. Entries keep their order. Empty lists and mappings stay on one line.

Does not own: reading JSON (`Bindery.Value.JsonReader`).
-/

namespace Bindery.Json

/-- The name of a control character with a short escape. -/
def shortEscape (c : Char) : Option Char :=
  if c = '"' then some '"'
  else if c = '\\' then some '\\'
  else if c = '\x08' then some 'b'
  else if c = '\x0c' then some 'f'
  else if c = '\n' then some 'n'
  else if c = '\r' then some 'r'
  else if c = '\t' then some 't'
  else none

def escapeChar (c : Char) : List Char :=
  match shortEscape c with
  | some name => ['\\', name]
  | none => if c.toNat < 0x20 then '\\' :: 'u' :: Text.hexPadded 4 c.toNat else [c]

def string (text : String) : String :=
  String.ofList ('"' :: text.toList.flatMap escapeChar ++ ['"'])

/-- The text of a value that holds no other. -/
def scalar : Value → String
  | .null => "null"
  | .bool value => if value then "true" else "false"
  | .int value => toString value
  | .float value => value.render Number.documentFormat
  | .str value => string value
  | .date written => string written
  | .list _ => "[]"
  | .map _ => "\x7b\x7d"

mutual

def compact : Value → String
  | .list items => "[" ++ ",".intercalate (compactItems items) ++ "]"
  | .map entries => "\x7b" ++ ",".intercalate (compactEntries entries) ++ "\x7d"
  | value => scalar value

/-- The items of a list, each on one line. -/
def compactItems : List Value → List String
  | [] => []
  | item :: rest => compact item :: compactItems rest

/-- The entries of a mapping, each on one line. -/
def compactEntries : List (String × Value) → List String
  | [] => []
  | (key, value) :: rest => (string key ++ ":" ++ compact value) :: compactEntries rest

end

def indentation (level : Nat) : String :=
  String.ofList (List.replicate (2 * level) ' ')

/-- Encloses members, each on a line of its own one level deeper. -/
def block (level : Nat) (opening closing : String) (members : List String) : String :=
  if members.isEmpty then opening ++ closing
  else
    let separator := ",\n" ++ indentation (level + 1)
    opening ++ "\n" ++ indentation (level + 1) ++ separator.intercalate members ++ "\n" ++
      indentation level ++ closing

mutual

/-- A value over several lines, its first line standing at `level`. -/
def prettyAt (level : Nat) : Value → String
  | .list items => block level "[" "]" (prettyItems (level + 1) items)
  | .map entries => block level "\x7b" "\x7d" (prettyEntries (level + 1) entries)
  | value => scalar value

def prettyItems (level : Nat) : List Value → List String
  | [] => []
  | item :: rest => prettyAt level item :: prettyItems level rest

def prettyEntries (level : Nat) : List (String × Value) → List String
  | [] => []
  | (key, value) :: rest =>
      (string key ++ ": " ++ prettyAt level value) :: prettyEntries level rest

end

def pretty (value : Value) : String :=
  prettyAt 0 value

end Bindery.Json
