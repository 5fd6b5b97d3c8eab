import Bindery.Number.Binary64
import Bindery.Text.Quoted

/-!
Contract: the values that results, settings and documents are made of.

Owns:
- `Value`, with mappings as lists of entries, so that their order is kept;
- reading and writing an entry of a mapping;
- the display form of a value, in which a text stands as it is at the top and quoted inside a
  list or a mapping.

Does not own: JSON (`Bindery.Value.Json`) and the merging of settings (`Bindery.Value.Merge`).
-/

namespace Bindery

/-- A dynamic value. A date or time of day is kept as written. -/
inductive Value where
  | null
  | bool (value : Bool)
  | int (value : Int)
  | float (value : Number.Binary64)
  | str (value : String)
  | date (written : String)
  | list (items : List Value)
  | map (entries : List (String × Value))
deriving Repr, BEq, Inhabited

/-- The entries of a mapping. A key has one entry; the first position of a key is kept. -/
abbrev Entries := List (String × Value)

namespace Entries

def find? (entries : Entries) (key : String) : Option Value :=
  match entries with
  | [] => none
  | (name, value) :: rest => if name = key then some value else Entries.find? rest key

def has (entries : Entries) (key : String) : Bool :=
  (Entries.find? entries key).isSome

/-- Gives a key a value: in its place if it has one, else at the end. -/
def set (entries : Entries) (key : String) (value : Value) : Entries :=
  match entries with
  | [] => [(key, value)]
  | (name, old) :: rest =>
      if name = key then (name, value) :: rest else (name, old) :: Entries.set rest key value

/-- Keeps the first position and the last value of every key. -/
def ofPairs (pairs : List (String × Value)) : Entries :=
  pairs.foldl (fun entries pair => Entries.set entries pair.1 pair.2) []

theorem find?_set_self (entries : Entries) (key : String) (value : Value) :
    Entries.find? (Entries.set entries key value) key = some value := by
  induction entries with
  | nil => simp [set, find?]
  | cons entry rest inductionHypothesis =>
      obtain ⟨name, old⟩ := entry
      by_cases same : name = key
      · simp [set, find?, same]
      · simp [set, find?, same, inductionHypothesis]

theorem find?_set_of_ne (entries : Entries) {key other : String} (value : Value)
    (h : other ≠ key) :
    Entries.find? (Entries.set entries key value) other = Entries.find? entries other := by
  induction entries with
  | nil => simp [set, find?, Ne.symm h]
  | cons entry rest inductionHypothesis =>
      obtain ⟨name, old⟩ := entry
      by_cases same : name = key
      · subst same
        simp [set, find?, Ne.symm h]
      · by_cases found : name = other
        · subst found
          simp [set, find?, same]
        · simp [set, find?, same, found, inductionHypothesis]

end Entries

namespace Value

def ofOption : Option String → Value
  | none => .null
  | some text => .str text

/-- Whether a value counts as true: nothing, false, zero and empty values do not. -/
def isTruthy : Value → Bool
  | .null => false
  | .bool value => value
  | .int value => value != 0
  | .float value => !value.isZero
  | .str value => !value.isEmpty
  | .date _ => true
  | .list items => !items.isEmpty
  | .map entries => !entries.isEmpty

mutual

/-- The form of a value inside another one: texts are quoted. -/
def shown : Value → String
  | .null => "None"
  | .bool value => if value then "True" else "False"
  | .int value => toString value
  | .float value => value.render Number.plainFormat
  | .str value => Text.quote value
  | .date written => written
  | .list items => "[" ++ ", ".intercalate (shownItems items) ++ "]"
  | .map entries => "\x7b" ++ ", ".intercalate (shownEntries entries) ++ "\x7d"

def shownItems : List Value → List String
  | [] => []
  | item :: rest => item.shown :: shownItems rest

def shownEntries : List (String × Value) → List String
  | [] => []
  | (key, value) :: rest => (Text.quote key ++ ": " ++ value.shown) :: shownEntries rest

end

/-- The display form: a text stands as it is. -/
def display : Value → String
  | .str value => value
  | value => value.shown

end Value

end Bindery
