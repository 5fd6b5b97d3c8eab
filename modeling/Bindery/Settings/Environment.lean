import Bindery.Settings.Basic
import Bindery.Text.Lowercase
import Bindery.Value.JsonReader
import Bindery.Value.Merge

/-!
Contract: settings from environment variables.

Owns:
- the names: a common beginning, then the key of a setting, in any case; two underscores lead into
  a section;
- the values: a switch is read as it is written, a whole section or a table of texts is JSON;
- the tree: variables with longer names are laid over a section's JSON, a later variable over an
  earlier one.

A variable that names no setting at the top is ignored. Text that is not JSON where JSON is needed
is the only fault.
-/

namespace Bindery.Settings.Environment

/-- What the names of all settings variables begin with. -/
def nameStart : String := "bookctl_"

/-- Leads into a section. -/
def delimiter : List Char := ['_', '_']

/-- The variables by their names in small letters. A name keeps its first position and its last
value, first as it is spelled and then in small letters. -/
def loweredNames (environment : List (String × String)) : Entries :=
  let spelled : Entries := .ofPairs (environment.map fun (name, text) => (name, .str text))
  .ofPairs (spelled.map fun (name, value) => (Text.lower name, value))

def textOf (given : Entries) (name : String) : Option String :=
  match given.find? name with
  | some (.str text) => some text
  | _ => none

/-- Cuts a text at every occurrence of a nonempty word, `skip` characters of which are still to be
passed over. -/
def splitOnWord (word : List Char) : (skip : Nat) → List Char → List (List Char)
  | _, [] => [[]]
  | skip + 1, _ :: rest => splitOnWord word skip rest
  | 0, c :: rest =>
      if word.isPrefixOf (c :: rest) then [] :: splitOnWord word (word.length - 1) rest
      else
        match splitOnWord word 0 rest with
        | [] => [[c]]
        | part :: parts => (c :: part) :: parts

/-- The keys inside a section that a variable's name leads to. -/
def keysInside (section_ : String) (name : String) : Option (List String) :=
  let start := (nameStart ++ section_).toList ++ delimiter
  if start.isPrefixOf name.toList then
    some ((splitOnWord delimiter 0 (name.toList.drop start.length)).map String.ofList)
  else none

/-- Gives a path of keys a value. A text in the middle of the path keeps the value out. -/
def setAt (value : Value) : List String → Entries → Entries
  | [], entries => entries
  | [key], entries => entries.set key value
  | key :: rest, entries =>
      match entries.find? key with
      | none => entries.set key (.map (setAt value rest []))
      | some (.map inner) => entries.set key (.map (setAt value rest inner))
      | some _ => entries

/-- The path of keys whose value is a table and therefore JSON. The key may have the common
beginning once more; the value then is JSON all the same, although no setting takes it. -/
def isTablePath (section_ : String) (keys : List String) : Bool :=
  section_ = "build" && (keys = ["substitutes"] || keys = [nameStart ++ "substitutes"])

/-- The value of a variable inside a section; nothing if it has to be JSON and is not. -/
def valueInside (section_ : String) (keys : List String) (text : String) : Option Value :=
  if isTablePath section_ keys && !text.isEmpty then Json.parse? text else some (.str text)

/-- The entries of a section that variables with longer names give. -/
def nested (section_ : String) : Entries → Option Entries :=
  List.foldlM (fun entries (name, value) =>
    match keysInside section_ name, value with
    | some keys, .str text =>
        (valueInside section_ keys text).map fun value => setAt value keys entries
    | _, _ => some entries) []

def keysOf (section_ : String) : List String :=
  if section_ = "latex" then ["builder", "directory"]
  else if section_ = "graphviz" then ["directory"]
  else ["target_directory", "images_directory", "source_root", "substitutes"]

/-- Spells a key of a section as the section does. -/
def spell (section_ : String) (key : String) : String :=
  ((keysOf section_).find? fun known => known = Text.lower key).getD key

def spellKeys (section_ : String) (entries : Entries) : Entries :=
  .ofPairs (entries.map fun (key, value) => (spell section_ key, value))

/-- The value of a section, if variables give one; nothing outside if one of them is not JSON. -/
def sectionValue (given : Entries) (section_ : String) : Option (Option Value) :=
  match textOf given (nameStart ++ section_) with
  | none =>
      (nested section_ given).map fun entries =>
        if entries.isEmpty then none else some (.map (spellKeys section_ entries))
  | some text =>
      match Json.parse? text with
      | none => none
      | some .null => some none
      | some (.map entries) =>
          (nested section_ given).map fun inner =>
            some (.map (spellKeys section_ (Value.overlayEntries entries inner)))
      | some value => some (some value)

def switchEntries (given : Entries) : Entries :=
  switchKeys.filterMap fun key =>
    (textOf given (nameStart ++ key)).map fun text => (key, .str text)

/-- The sections that variables give, or the first section with a fault. -/
def sectionEntries (given : Entries) : List String → Except String Entries
  | [] => .ok []
  | section_ :: rest =>
      match sectionValue given section_ with
      | none => .error section_
      | some found =>
          (sectionEntries given rest).map fun entries =>
            match found with
            | none => entries
            | some value => (section_, value) :: entries

/-- The settings that the environment gives, or the section with a fault. -/
def read (environment : List (String × String)) : Except String Entries :=
  let given := loweredNames environment
  (sectionEntries given sectionKeys).map fun sections => switchEntries given ++ sections

end Bindery.Settings.Environment
