import Bindery.Shell.Condition
import Bindery.Shell.Field
import Bindery.Text.Lines

/-!
Contract: the commands that a shell has built in, apart from those that run other commands.

Owns:
- printing, conditions, and reading a line into names;
- names: exporting, fixing, forgetting and hiding them;
- the working directory, the options and the arguments of the shell, and reading options;
- leaving loops, functions and the shell;
- signals: sending them, and what happens when one comes.

Each is a function of the session and the words behind its name, and sets the status.
-/

namespace Bindery.Shell

abbrev BuiltIn := Session → (arguments : List String) → Session

def digits? (text : String) : Option Nat :=
  if !text.isEmpty && text.toList.all Char.isDigit then some (numberOf 10 text.toList) else none

/-- What follows from the number that a word is, which it has to be. -/
def Session.withNumber (session : Session) (word : String) (continued : Nat → Session) : Session :=
  match digits? word with
  | some number => continued number
  | none => session.fail ("Illegal number: " ++ word)

/-- A text between single quotes, as a shell reads it. -/
def singleQuoted (text : String) : String :=
  "'" ++ "'\"'\"'".intercalate ((Text.splitAt '\'' text.toList).map String.ofList) ++ "'"

def withoutDashes : List String → List String
  | "--" :: rest => rest
  | words => words

namespace BuiltIn

/-! ## Printing and testing -/

/-- Prints bytes, and complains if they cannot be printed. -/
def printing (session : Session) (bytes : List UInt8) (status : Int) : Session :=
  let (printed, written) := session.write 1 bytes
  if written then printed.ending status
  else
    (printed.complain (session.speaker.getD "" ++ ": I/O error")).ending 1

def echo : BuiltIn := fun session arguments => printing session (echoed arguments) 0

/-- Prints its arguments in the places of a format. -/
def printf : BuiltIn := fun session arguments =>
  match withoutDashes arguments with
  | format :: rest =>
      if arguments.head? = some format && format.startsWith "-" && 1 < format.length then
        session.fail ("Illegal option " ++ (format.take 2).toString)
      else
        let output := formatted .builtIn format rest
        let spoken := output.faults.foldl
          (fun session fault => session.complain (fault.text .builtIn)) session
        let status := output.status .builtIn
        let printed := printing spoken output.bytes status
        if output.faults.any PrintFault.ends then { printed with flow := .failed } else printed
  | [] => session.fail "usage: printf format [arg ...]"

def test : BuiltIn := fun session arguments =>
  match session.holds (arguments.length + 1) arguments with
  | .ok true => session.ending 0
  | .ok false => session.ending 1
  | .error text => session.fail text

def bracket : BuiltIn := fun session arguments =>
  if arguments.getLast? = some "]" then test session arguments.dropLast
  else session.fail "missing ]"

/-- The glyphs of a line, in which a backslash may protect a character, the number of bytes that it
takes, and whether its end was found. -/
def lineGlyphs (raw : Bool) : List UInt8 → List Glyph × Nat × Bool
  | [] => ([], 0, false)
  | 92 :: next :: rest =>
      if raw then
        let (glyphs, count, ended) := lineGlyphs raw (next :: rest)
        (.loose '\\' :: glyphs, count + 1, ended)
      else
        let (glyphs, count, ended) := lineGlyphs raw rest
        (if next = 10 then glyphs else .quoted (octet next) :: glyphs, count + 2, ended)
  | byte :: rest =>
      if byte = 10 then ([], 1, true)
      else
        let (glyphs, count, ended) := lineGlyphs raw rest
        if byte = 0 || (byte = 92 && !raw) then (glyphs, count + 1, ended)
        else (.loose (octet byte) :: glyphs, count + 1, ended)

/-- Whether a glyph is a separator of a kind. -/
def isSeparator (separators : List Char) (blank : Bool) : Glyph → Bool
  | .loose c => separators.contains c && isBlankSeparator c = blank
  | _ => false

/-- The texts that a number of names get from a line. The last one gets all that is left. -/
def shares (separators : List Char) : (count : Nat) → List Glyph → List String
  | 0, _ => []
  | 1, glyphs =>
      let shown := glyphs.dropWhile (isSeparator separators true)
      match fieldsOf separators shown with
      | [] => [""]
      | [field] => [String.ofList (glyphText [] field)]
      | _ =>
          let kept := (shown.reverse.dropWhile (isSeparator separators true)).reverse
          [String.ofList (glyphText [] kept)]
  | count + 1, glyphs =>
      let shown := glyphs.dropWhile (isSeparator separators true)
      let outside (glyph : Glyph) : Bool :=
        !isSeparator separators true glyph && !isSeparator separators false glyph
      let field := shown.takeWhile outside
      let afterBlanks := (shown.drop field.length).dropWhile (isSeparator separators true)
      let left :=
        match afterBlanks with
        | glyph :: more => if isSeparator separators false glyph then more else afterBlanks
        | [] => []
      String.ofList (glyphText [] field) :: shares separators count left

/-- Reads the options in front of names: whether a backslash counts for nothing, what is wrong with
the options, and what is left. A text that asks for the line is shown only on a terminal. -/
def readLineOptions (raw : Bool) : List String → Bool × Option String × List String
  | [] => (raw, none, [])
  | "-r" :: rest => readLineOptions true rest
  | "-p" :: _ :: rest => readLineOptions raw rest
  | ["-p"] => (raw, some "No arg for -p option", [])
  | "--" :: rest => (raw, none, rest)
  | word :: rest =>
      if word.startsWith "-" && 1 < word.length then
        (raw, some ("Illegal option " ++ (word.take 2).toString), [])
      else (raw, none, word :: rest)

def read : BuiltIn := fun session arguments =>
  let (raw, fault, names) := readLineOptions false arguments
  if fault.isSome then session.fail (fault.getD "")
  else if names.isEmpty then session.fail "arg count"
  else if names.any fun name => !isName name.toList then
    session.fail ((names.find? fun name => !isName name.toList).getD "" ++ ": bad variable name")
  else
    let (glyphs, count, ended) := lineGlyphs raw (session.unread 0)
    let texts := shares session.separators names.length glyphs
    let after := (names.zip texts).foldl
      (fun session (name, text) => if session.goesOn then session.assign name text else session)
      (session.advance 0 count)
    if after.goesOn then after.ending (if ended then 0 else 1) else after

/-! ## Names -/

/-- The names with values, in the order of their bytes, as commands that give them. -/
def listed (session : Session) (command : String) (chosen : Binding → Bool) : Session :=
  let sorted := (session.bindings.filter chosen).mergeSort fun left right => left.name ≤ right.name
  let line (binding : Binding) : String :=
    command ++ binding.name ++ (binding.value.map fun value => "=" ++ singleQuoted value).getD "" ++
      "\n"
  (session.printText (String.join (sorted.map line))).ending 0

/-- Changes what the names in some words stand for, which may get values there. -/
def declared (session : Session) (change : Binding → Binding) : List String → Session
  | [] => session.ending 0
  | word :: rest =>
      let name := String.ofList (word.toList.takeWhile (· != '='))
      if !isName name.toList then session.fail (name ++ ": bad variable name")
      else
        let assigned :=
          match splitAssignment word.toList with
          | some (name, value) => session.assign name (String.ofList value)
          | none => session
        if !assigned.goesOn then assigned
        else
          let binding := (assigned.binding? name).getD ⟨name, none, false, false⟩
          declared (assigned.bind (change binding)) change rest

/-- Lets programs see names. -/
def exporting : BuiltIn := fun session arguments =>
  if arguments.isEmpty || arguments = ["-p"] then listed session "export " Binding.exported
  else declared session (fun binding => { binding with exported := true }) (withoutDashes arguments)

def readonly : BuiltIn := fun session arguments =>
  if arguments.isEmpty || arguments = ["-p"] then listed session "readonly " Binding.fixed
  else declared session (fun binding => { binding with fixed := true }) (withoutDashes arguments)

def forget (session : Session) : List String → Session
  | [] => session.ending 0
  | name :: rest =>
      if !isName name.toList then session.fail (name ++ ": bad variable name")
      else if (session.binding? name).any Binding.fixed then
        session.fail (name ++ ": is read only")
      else forget (session.unbind name) rest

def unset : BuiltIn := fun session arguments =>
  match arguments with
  | "-f" :: names =>
      { session with
        functions := session.functions.filter fun entry => !names.contains entry.1 }.ending 0
  | "-v" :: names => forget session (withoutDashes names)
  | _ => forget session (withoutDashes arguments)

/-- Hides names until the function ends that runs. -/
def hide (session : Session) : List String → Session
  | [] => session.ending 0
  | word :: rest =>
      let name := String.ofList (word.toList.takeWhile (· != '='))
      match session.frames with
      | [] => session.fail "not in a function"
      | frame :: frames =>
          if !isName name.toList then session.fail (name ++ ": bad variable name")
          else
            let hidden :=
              if frame.any (·.1 = name) then session
              else { session with frames := ((name, session.binding? name) :: frame) :: frames }
            let assigned :=
              match splitAssignment word.toList with
              | some (name, value) => hidden.assign name (String.ofList value)
              | none => hidden
            if assigned.goesOn then hide assigned rest else assigned

/-- Hides names in a function. -/
def localNames : BuiltIn := fun session arguments =>
  if session.frames.isEmpty then session.fail "not in a function" else hide session arguments

/-! ## Directories, options and arguments -/

def directoryAt? (session : Session) (name : String) : Option Place :=
  match session.files.locate session.base (pathOf name) with
  | .ok place => if session.files.find? place = some .directory then some place else none
  | .error _ => none

/-- The first directory among those in which a relative one is looked for. -/
def directoryAmong? (session : Session) (name : String) : Option (Place × Bool) :=
  let searched := (session.value? "CDPATH").getD ""
  let first := name.toList.takeWhile (· != '/')
  let fixed := name.startsWith "/" || String.ofList first = "." || String.ofList first = ".."
  let candidates : List (String × Bool) :=
    if fixed || searched.isEmpty then [(name, false)]
    else
      ((Text.splitAt ':' searched.toList).map fun part =>
        if part.isEmpty then (name, false) else (String.ofList part ++ "/" ++ name, true)) ++
        [(name, false)]
  candidates.findSome? fun (path, shown) =>
    (directoryAt? session path).map fun place => (place, shown)

def cd : BuiltIn := fun session arguments =>
  let words := arguments.dropWhile fun word => word = "-L" || word = "-P"
  let (target, shown) : String × Bool :=
    match withoutDashes words with
    | [] => ((session.value? "HOME").getD "", false)
    | "-" :: _ => ((session.value? "OLDPWD").getD "", true)
    | name :: _ => (name, false)
  match directoryAmong? session (if target.isEmpty then "." else target) with
  | some (place, found) =>
      let left := session.assignExported "OLDPWD" session.directory
      let moved := { left with base := place }
      let arrived := moved.assignExported "PWD" moved.directory
      if shown || found then (arrived.printText (arrived.directory ++ "\n")).ending 0
      else arrived.ending 0
  | none => session.fail ("can't cd to " ++ target)

def pwd : BuiltIn := fun session _ =>
  printing session (bytesOf (session.directory ++ "\n").toList) 0

/-- The long names of options, in the order in which a shell lists them, and the letters of those
that have one. -/
def optionNames : List (String × Option Char) := [
  ("errexit", some 'e'), ("noglob", some 'f'), ("ignoreeof", some 'I'), ("interactive", some 'i'),
  ("monitor", some 'm'), ("noexec", some 'n'), ("stdin", some 's'), ("xtrace", some 'x'),
  ("verbose", some 'v'), ("vi", some 'V'), ("emacs", some 'E'), ("noclobber", some 'C'),
  ("allexport", some 'a'), ("notify", some 'b'), ("nounset", some 'u'), ("privileged", some 'p'),
  ("nolog", none), ("debug", none)]

/-- The letters of options, in the order in which a shell shows those that are set. -/
def optionLetters : List Char := (optionNames.filterMap (·.2)).reverse

def switched (session : Session) (on : Bool) (option : Char) : Session :=
  let others := session.options.filter (· != option)
  { session with
    options := if on then optionLetters.filter (option :: others).contains else others }

/-- The list of the options and of how they are set: as a table, or as commands that set them so. -/
def optionList (session : Session) (table : Bool) : String :=
  let heading := if table then "Current option settings\n" else ""
  heading ++ String.join (optionNames.map fun (name, letter) =>
    let on : Bool := letter.any session.has
    if table then
      let blanks := String.ofList (List.replicate (16 - name.length) ' ')
      name ++ blanks ++ (if on then "on" else "off") ++ "\n"
    else "set " ++ (if on then "-o " else "+o ") ++ name ++ "\n")

/-- What the options of a command leave: the session with them, the words that follow those read so
far, and whether a shell was told that its script is a text. -/
structure OptionReading where
  session : Session
  rest : List String
  fromText : Bool

/-- Reads the letters of one word of options. An `o` takes its name from the words that follow. -/
def readLetters (starting on : Bool) : List Char → OptionReading → OptionReading
  | [], reading => reading
  | letter :: letters, reading =>
      let sign := if on then '-' else '+'
      if letter = 'o' then
        match reading.rest with
        | [] =>
            readLetters starting on letters
              { reading with session := reading.session.printText (optionList reading.session on) }
        | name :: rest =>
            match optionNames.lookup name with
            | none =>
                { reading with
                  session := reading.session.fail
                    ("Illegal option " ++ String.ofList [sign, 'o', ' '] ++ name) }
            | some option =>
                let set := option.elim reading.session (switched reading.session on)
                readLetters starting on letters { reading with session := set, rest := rest }
      else if starting && letter = 'c' then
        readLetters starting on letters { reading with fromText := true }
      else if starting && letter = 'l' then readLetters starting on letters reading
      else if optionLetters.contains letter then
        readLetters starting on letters
          { reading with session := switched reading.session on letter }
      else
        { reading with
          session := reading.session.fail ("Illegal option " ++ String.ofList [sign, letter]) }

/-- Reads the options in front of words: those of a shell that starts, or those that a running one
is given. The second part tells whether words follow that are arguments, be they none. -/
def readOptions (starting : Bool) : (fuel : Nat) → OptionReading → OptionReading × Bool
  | 0, reading => (reading, false)
  | fuel + 1, reading =>
      if !reading.session.goesOn then (reading, false)
      else
        match reading.rest with
        | [] => (reading, false)
        | "--" :: rest => ({ reading with rest := rest }, true)
        | "-" :: rest =>
            let session :=
              if starting then reading.session
              else switched (switched reading.session false 'x') false 'v'
            ({ reading with session := session, rest := rest }, !rest.isEmpty)
        | word :: rest =>
            let on := word.startsWith "-"
            if on || word.startsWith "+" then
              readOptions starting fuel
                (readLetters starting on (word.toList.drop 1) { reading with rest := rest })
            else (reading, true)

/-- Sets options and arguments, or lists the values of names. -/
def set : BuiltIn := fun session arguments =>
  if arguments.isEmpty then listed session "" fun binding => binding.value.isSome
  else
    let (reading, named) := readOptions false (arguments.length + 1) ⟨session, arguments, false⟩
    if !reading.session.goesOn then reading.session
    else if named then { reading.session with arguments := reading.rest }.ending 0
    else reading.session.ending 0

def shift : BuiltIn := fun session arguments =>
  let dropped (count : Nat) : Session :=
    if session.arguments.length < count then session.fail "can't shift that many"
    else { session with arguments := session.arguments.drop count }.ending 0
  match arguments with
  | [] => dropped 1
  | word :: _ => session.withNumber word dropped

def nextOption (session : Session) (known name : String) (words : List String) : Session :=
  let index := ((session.value? "OPTIND").bind digits?).getD 1
  let offset := session.optionOffset
  let silent := known.startsWith ":"
  let finished (index offset : Nat) (found : String) (value : Option String) (status : Int) :
      Session :=
    let valued :=
      match value with
      | some text => session.assign "OPTARG" text
      | none => session.unbind "OPTARG"
    let named := (valued.assign name found).assign "OPTIND" (toString index)
    { named with optionOffset := offset }.ending status
  let current := (words.drop (if offset = 0 then index - 1 else index - 2)).head?
  match current with
  | none => finished index 0 "?" none 1
  | some word =>
      if offset = 0 && (!word.startsWith "-" || word = "-") then finished index 0 "?" none 1
      else if offset = 0 && word = "--" then finished (index + 1) 0 "?" none 1
      else
        let position := if offset = 0 then 1 else offset
        let next := if offset = 0 then index + 1 else index
        let letter := (word.toList.drop position).headD '?'
        let rest := String.ofList (word.toList.drop (position + 1))
        let behind := if rest.isEmpty then 0 else position + 1
        let letterText := String.ofList [letter]
        match (known.toList.dropWhile fun c => c != letter || c = ':') with
        | [] =>
            if silent then finished next behind "?" (some letterText) 0
            else
              let spoken := (session.write 2
                (bytesOf ("Illegal option -" ++ letterText ++ "\n").toList)).1
              let done := finished next behind "?" none 0
              { done with channels := spoken.channels, files := spoken.files }
        | _ :: ':' :: _ =>
            if !rest.isEmpty then finished next 0 letterText (some rest) 0
            else
              match (words.drop (next - 1)).head? with
              | some value => finished (next + 1) 0 letterText (some value) 0
              | none =>
                  if silent then finished next 0 ":" (some letterText) 0
                  else
                    let spoken := (session.write 2
                      (bytesOf ("No arg for -" ++ letterText ++ " option\n").toList)).1
                    let done := finished next 0 "?" none 0
                    { done with channels := spoken.channels, files := spoken.files }
        | _ => finished next behind letterText (some "") 0

def getopts : BuiltIn := fun session arguments =>
  match arguments with
  | known :: name :: words =>
      nextOption session known name (if words.isEmpty then session.arguments else words)
  | _ => session.fail "Usage: getopts optstring var [arg]"

/-! ## Leaving -/

def exit : BuiltIn := fun session arguments =>
  match arguments with
  | [] => { session with flow := .over }
  | word :: _ =>
      session.withNumber word fun number =>
        { session with status := Int.ofNat (number % 256), flow := .over }

def leavingFunction : BuiltIn := fun session arguments =>
  match arguments with
  | [] => { session with flow := .back }
  | word :: _ =>
      session.withNumber word fun number =>
        { session with status := Int.ofNat number, flow := .back }

/-- Leaves loops, or goes to the next round of one. -/
def leaving (flow : Nat → Flow) : BuiltIn := fun session arguments =>
  let done (count : Nat) : Session :=
    let count := min count session.loops
    if count = 0 then session.ending 0 else { session with status := 0, flow := flow count }
  match arguments with
  | [] => done 1
  | word :: _ =>
      session.withNumber word fun number =>
        if number = 0 then session.fail ("Illegal number: " ++ word) else done number

/-! ## Signals -/

def signalNames : List (String × Nat) := [
  ("EXIT", 0), ("HUP", 1), ("INT", 2), ("QUIT", 3), ("ILL", 4), ("TRAP", 5), ("ABRT", 6),
  ("BUS", 7), ("FPE", 8), ("KILL", 9), ("USR1", 10), ("SEGV", 11), ("USR2", 12), ("PIPE", 13),
  ("ALRM", 14), ("TERM", 15), ("STKFLT", 16), ("CHLD", 17), ("CONT", 18), ("STOP", 19),
  ("TSTP", 20), ("TTIN", 21), ("TTOU", 22), ("URG", 23), ("XCPU", 24), ("XFSZ", 25),
  ("VTALRM", 26), ("PROF", 27), ("WINCH", 28), ("IO", 29), ("PWR", 30), ("SYS", 31)]

def signal? (word : String) (withExit : Bool) : Option Nat :=
  match digits? word with
  | some number => if number < 65 then some number else none
  | none =>
      ((signalNames.find? fun entry => entry.1 = word.map Char.toUpper).map (·.2)).filter
        fun number => withExit || number != 0

/-- Sends a signal to processes. Only the shell itself is there to get one. -/
def sent (session : Session) (number : Nat) : List String → (status : Int) → Session
  | [], status => if session.goesOn then session.ending status else session
  | word :: rest, status =>
      let target := if word.startsWith "-" then (word.drop 1).toString else word
      match digits? target with
      | none => session.fail ("Illegal number: " ++ target)
      | some _ =>
          if target = processNumber then
            let struck := session.strike number
            if struck.goesOn then sent struck number rest status else struck
          else sent (session.complain "No such process\n") number rest 1

/-- What is said about words that send no signal. -/
def killUsage : String :=
  "Usage: kill [-s sigspec | -signum | -sigspec] [pid | job]... or\nkill -l [exitstatus]"

def kill : BuiltIn := fun session arguments =>
  let toTargets (number : Nat) (targets : List String) : Session :=
    if targets.isEmpty then session.fail killUsage else sent session number targets 0
  match arguments with
  | [] => session.fail killUsage
  | "-l" :: rest =>
      match rest with
      | word :: _ =>
          session.withNumber word fun number =>
            let number := if 128 < number then number - 128 else number
            match signalNames.find? fun entry => entry.2 = number && number != 0 with
            | some (name, _) => printing session (bytesOf (name ++ "\n").toList) 0
            | none => session.fail ("invalid signal number or exit status: " ++ word)
      | [] =>
          let names := (signalNames.drop 1).map fun entry => entry.1 ++ "\n"
          printing session (bytesOf (String.join names).toList) 0
  | word :: rest =>
      if word.startsWith "-" then
        let option := (word.drop 1).toString
        match signal? option false with
        | some number => toTargets number rest
        | none =>
            if option.startsWith "s" then
              let (name, targets) : String × List String :=
                if option.length = 1 then (rest.headD "", rest.drop 1)
                else ((option.drop 1).toString, rest)
              match signal? name false with
              | some number => toTargets number targets
              | none => session.fail ("invalid signal number or name: " ++ name)
            else if option = "-" then toTargets 15 rest
            else session.fail ("Illegal option -" ++ (option.take 1).toString)
      else toTargets 15 arguments

def trapped (session : Session) (action : Option String) : List String → Session
  | [] => session.ending 0
  | word :: rest =>
      match signal? word true with
      | none =>
          ((session.write 2 (bytesOf ("trap: " ++ word ++ ": bad trap\n").toList)).1).ending 1
      | some number =>
          let others := session.traps.filter (·.1 != number)
          let traps :=
            match action with
            | some text => if text = "-" then others else (number, text) :: others
            | none => others
          trapped { session with traps := traps } action rest

def trap : BuiltIn := fun session arguments =>
  match withoutDashes arguments with
  | [] =>
      let sorted := session.traps.mergeSort fun left right => left.1 ≤ right.1
      let line (entry : Nat × String) : String :=
        "trap -- " ++ singleQuoted entry.2 ++ " " ++
          ((signalNames.find? fun known => known.2 = entry.1).map (·.1)).getD
            (toString entry.1) ++ "\n"
      (session.printText (String.join (sorted.map line))).ending 0
  | [word] => trapped session none [word]
  | action :: words =>
      if (digits? action).isSome then trapped session none (action :: words)
      else trapped session (some action) words

/-- Waits for commands in the background, which have ended by then. -/
def wait : BuiltIn := fun session arguments =>
  match arguments with
  | [] => session.ending 0
  | word :: _ =>
      if word = backgroundNumber then session.ending (session.background.getD 127)
      else session.ending 127

def octalText (value : Nat) : String :=
  let digits := Nat.toDigits 8 value
  String.ofList (List.replicate (4 - digits.length) '0' ++ digits)

/-- Shows or sets what new files cannot be used for. -/
def umask : BuiltIn := fun session arguments =>
  match arguments with
  | [] => printing session (bytesOf (octalText session.mask ++ "\n").toList) 0
  | word :: _ =>
      if !word.isEmpty && word.toList.all isOctal then
        { session with mask := numberOf 8 word.toList % 512 }.ending 0
      else session.fail ("Illegal mode: " ++ word)

def nothing (status : Int) : BuiltIn := fun session _ => session.ending status

def fixedLine (text : String) : BuiltIn := fun session _ =>
  printing session (bytesOf (text ++ "\n").toList) 0

end BuiltIn

/-- The commands that are built in and run no other command. -/
def builtIns : List (String × BuiltIn) := [
  ("echo", BuiltIn.echo), ("printf", BuiltIn.printf), ("test", BuiltIn.test),
  ("[", BuiltIn.bracket), ("read", BuiltIn.read), ("export", BuiltIn.exporting),
  ("readonly", BuiltIn.readonly), ("unset", BuiltIn.unset), ("local", BuiltIn.localNames),
  ("cd", BuiltIn.cd), ("chdir", BuiltIn.cd), ("pwd", BuiltIn.pwd), ("set", BuiltIn.set),
  ("shift", BuiltIn.shift), ("getopts", BuiltIn.getopts), ("exit", BuiltIn.exit),
  ("return", BuiltIn.leavingFunction), ("break", BuiltIn.leaving .leave),
  ("continue", BuiltIn.leaving .again), ("kill", BuiltIn.kill), ("trap", BuiltIn.trap),
  ("wait", BuiltIn.wait), (":", BuiltIn.nothing 0), ("true", BuiltIn.nothing 0),
  ("false", BuiltIn.nothing 1), ("umask", BuiltIn.umask), ("hash", BuiltIn.nothing 0),
  ("alias", BuiltIn.nothing 0), ("jobs", BuiltIn.nothing 0), ("ulimit", BuiltIn.nothing 0),
  ("times", BuiltIn.fixedLine "0m0.000000s 0m0.000000s\n0m0.000000s 0m0.000000s")]

/-- The names of the commands that are built in and run other commands. -/
def runningNames : List String := ["eval", ".", "exec", "command", "type"]

def isBuiltIn (name : String) : Bool :=
  runningNames.contains name || (builtIns.lookup name).isSome

end Bindery.Shell
