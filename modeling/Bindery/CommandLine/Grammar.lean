import Bindery.Text.Quoted

/-!
Contract: the words of a command line as options and arguments.

Owns:
- `OptionForm`, an option: its names, and whether a value belongs to it;
- reading: a long option with its value behind an equals sign or in the next word, short options
  that share one dash, the last of which may have its value right behind it, and two dashes alone,
  behind which everything is an argument;
- whether options may follow arguments: they may, except before the name of a command.

Does not own: which options there are (`Bindery.CommandLine.Commands`).
-/

namespace Bindery.CommandLine

/-- What an option does at once, whatever else is on the command line. -/
inductive Immediate where
  | help
  | version
  | examples
deriving DecidableEq, Repr

/-- An option: its names, its key, what stands for its value, and what it is for. -/
structure OptionForm where
  names : List String
  key : String
  value : Option String
  help : String
  immediate : Option Immediate
deriving DecidableEq, Repr

/-- An option that was given, with its value. -/
structure Occurrence where
  key : String
  value : Option String
deriving DecidableEq, Repr

/-- What was given: options in their order, and arguments. -/
structure Parsed where
  occurrences : List Occurrence
  arguments : List String
deriving DecidableEq, Repr

/-- What is wrong with the words of a command line. -/
inductive WordFault where
  | unknownOption (name : String)
  | missingValue (name : String)
  | unwantedValue (name : String)
deriving DecidableEq, Repr

namespace OptionForm

/-- Whether a name is a dash with a single letter. -/
def isShortName (name : String) : Bool :=
  match name.toList with
  | ['-', c] => c != '-'
  | _ => false

def findLong (options : List OptionForm) (name : String) : Option OptionForm :=
  options.find? fun option => option.names.contains name && !isShortName name

def findShort (options : List OptionForm) (c : Char) : Option OptionForm :=
  options.find? fun option => option.names.contains (String.ofList ['-', c])

end OptionForm

/-- What a word gives: options, and the name and key of one whose value is the next word. -/
structure WordReading where
  found : List Occurrence
  pending : Option (String × String)
deriving DecidableEq, Repr

def readCluster (options : List OptionForm) : List Char → Except WordFault WordReading
  | [] => .ok ⟨[], none⟩
  | c :: rest =>
      let name := String.ofList ['-', c]
      match OptionForm.findShort options c with
      | none => .error (.unknownOption name)
      | some option =>
          if option.value.isSome then
            if rest.isEmpty then .ok ⟨[], some (name, option.key)⟩
            else .ok ⟨[⟨option.key, some (String.ofList rest)⟩], none⟩
          else
            (readCluster options rest).map fun reading =>
              { reading with found := ⟨option.key, none⟩ :: reading.found }

/-- Cuts a word at its first equals sign. -/
def cutEquals (word : List Char) : List Char × Option (List Char) :=
  match word.dropWhile (· != '=') with
  | _ :: value => (word.takeWhile (· != '='), some value)
  | [] => (word, none)

def readOption (options : List OptionForm) (word : List Char) : Except WordFault WordReading :=
  let (nameChars, explicit) := cutEquals word
  let name := String.ofList nameChars
  match OptionForm.findLong options name with
  | some option =>
      match option.value.isSome, explicit with
      | true, some value => .ok ⟨[⟨option.key, some (String.ofList value)⟩], none⟩
      | true, none => .ok ⟨[], some (name, option.key)⟩
      | false, some _ => .error (.unwantedValue name)
      | false, none => .ok ⟨[⟨option.key, none⟩], none⟩
  | none =>
      if ['-', '-'].isPrefixOf word then .error (.unknownOption name)
      else readCluster options (word.drop 1)

def isOptionWord (word : List Char) : Bool :=
  match word with
  | '-' :: _ :: _ => true
  | _ => false

namespace Parsed

def addOptions (found : List Occurrence) (parsed : Parsed) : Parsed :=
  { parsed with occurrences := found ++ parsed.occurrences }

def addArgument (argument : String) (parsed : Parsed) : Parsed :=
  { parsed with arguments := argument :: parsed.arguments }

def valueOf (parsed : Parsed) (key : String) : Option String :=
  (parsed.occurrences.reverse.find? fun given => given.key = key).bind (·.value)

def isGiven (parsed : Parsed) (key : String) : Bool :=
  parsed.occurrences.any fun given => given.key = key

end Parsed

/-- Reads words. Where `interspersed` fails, everything behind the first argument is one. -/
def readWords (options : List OptionForm) (interspersed : Bool) :
    List String → Except WordFault Parsed
  | [] => .ok ⟨[], []⟩
  | word :: rest =>
      if word = "--" then .ok ⟨[], rest⟩
      else if isOptionWord word.toList then
        match readOption options word.toList with
        | .error fault => .error fault
        | .ok reading =>
            match reading.pending with
            | none => (readWords options interspersed rest).map (·.addOptions reading.found)
            | some (name, key) =>
                match rest with
                | [] => .error (.missingValue name)
                | value :: more =>
                    (readWords options interspersed more).map
                      (·.addOptions (reading.found ++ [⟨key, some value⟩]))
      else if interspersed then (readWords options interspersed rest).map (·.addArgument word)
      else .ok ⟨[], word :: rest⟩

/-- What the first immediate option that was given does. -/
def Parsed.immediate (options : List OptionForm) (parsed : Parsed) : Option Immediate :=
  parsed.occurrences.findSome? fun given =>
    (options.find? fun option => option.key = given.key).bind (·.immediate)

/-- What is no option word ends the options where arguments may not be mixed with them. -/
theorem readWords_argument (options : List OptionForm) {word : String} (rest : List String)
    (plain : isOptionWord word.toList = false) (different : word ≠ "--") :
    readWords options false (word :: rest) = .ok ⟨[], word :: rest⟩ := by
  simp [readWords, plain, different]

end Bindery.CommandLine
