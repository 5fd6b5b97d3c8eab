import Bindery.Path
import Bindery.Value.Basic

/-!
Contract: checking the values of settings, and what is reported about those that do not fit.

Owns:
- `Issue`, a place in the settings and what is wrong there;
- `Checked`, an answer or all issues: two parts are both checked even if the first one fails;
- the readers of texts, paths, switches and tables. A switch may be a truth value, zero or one, or
  one of a few words in any case.

Does not own: which settings there are (`Bindery.Settings.Basic`).
-/

namespace Bindery.Settings

inductive Flaw where
  | notText
  | notPath
  | notSection
  | notTable
  | notSwitch
  | unknownSwitch
  | unknownKey
  | fixed
deriving DecidableEq, Repr

/-- The code that stands for a flaw in reports. -/
def Flaw.code : Flaw → String
  | notText => "string_type"
  | notPath => "path_type"
  | notSection => "model_type"
  | notTable => "dict_type"
  | notSwitch => "bool_type"
  | unknownSwitch => "bool_parsing"
  | unknownKey => "extra_forbidden"
  | fixed => "frozen_instance"

/-- A flaw and the keys that lead to its value. -/
structure Issue where
  place : List String
  flaw : Flaw
deriving DecidableEq, Repr

/-- An answer, or every issue that was found. -/
abbrev Checked (α : Type) := Except (List Issue) α

namespace Checked

def issue {α : Type} (place : List String) (flaw : Flaw) : Checked α :=
  .error [⟨place, flaw⟩]

/-- Combines two answers; the issues of both are reported. -/
def zip {α β : Type} (left : Checked α) (right : Checked β) : Checked (α × β) :=
  match left, right with
  | .ok first, .ok second => .ok (first, second)
  | .error issues, .ok _ => .error issues
  | .ok _, .error issues => .error issues
  | .error issues, .error others => .error (issues ++ others)

@[simp]
theorem zip_eq_ok_iff {α β : Type} {left : Checked α} {right : Checked β} {first : α}
    {second : β} :
    zip left right = .ok (first, second) ↔ left = .ok first ∧ right = .ok second := by
  cases left <;> cases right <;> simp [zip]

end Checked

/-- Gives a setting another value, which is refused once the settings are read. A name that begins
with an underscore is no setting, so that no setting changes. -/
def reassign (key : String) : Checked Unit :=
  if key.startsWith "_" then .ok () else .issue [key] .fixed

abbrev Reader (α : Type) := (place : List String) → Value → Checked α

def readText : Reader String := fun place value =>
  match value with
  | .str text => .ok text
  | _ => .issue place .notText

def readPath : Reader Path := fun place value =>
  match value with
  | .str text => .ok (.ofString text)
  | _ => .issue place .notPath

def offWords : List String := ["0", "off", "f", "false", "n", "no"]

def onWords : List String := ["1", "on", "t", "true", "y", "yes"]

def switchOfInt (place : List String) (number : Int) : Checked Bool :=
  if number = 0 then .ok false
  else if number = 1 then .ok true
  else .issue place .unknownSwitch

/-- The least number of 64 bits with a sign. -/
def leastWord : Int := -9223372036854775808

/-- Whether a whole number fits into 64 bits with a sign. -/
def isWord (number : Int) : Bool :=
  leastWord ≤ number && number < -leastWord

def readSwitch : Reader Bool := fun place value =>
  match value with
  | .bool state => .ok state
  | .str text =>
      let word := text.map Char.toLower
      if offWords.contains word then .ok false
      else if onWords.contains word then .ok true
      else .issue place .unknownSwitch
  | .int number => if isWord number then switchOfInt place number else .issue place .notSwitch
  | .float number =>
      match number.toInt? with
      | some whole =>
          if isWord whole && whole != leastWord then switchOfInt place whole
          else .issue place .notSwitch
      | none => .issue place .notSwitch
  | _ => .issue place .notSwitch

def readTextEntries (place : List String) :
    List (String × Value) → Checked (List (String × String))
  | [] => .ok []
  | (key, value) :: rest =>
      ((readText (place ++ [key]) value).zip (readTextEntries place rest)).map
        fun (text, texts) => (key, text) :: texts

def readTextTable : Reader (List (String × String)) := fun place value =>
  match value with
  | .map entries => readTextEntries place entries
  | _ => .issue place .notTable

/-- Reads the value of a key, which has a default. -/
def readMember {α : Type} (reader : Reader α) (default : α) (place : List String)
    (entries : Entries) (key : String) : Checked α :=
  match entries.find? key with
  | none => .ok default
  | some value => reader (place ++ [key]) value

/-- Reads a section, whose keys are read by `reader`. -/
def readSection {α : Type} (reader : (place : List String) → Entries → Checked α) : Reader α :=
  fun place value =>
    match value with
    | .map entries => reader place entries
    | _ => .issue place .notSection

end Bindery.Settings
