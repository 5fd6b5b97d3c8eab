import Bindery.Shell.Expansion
import Bindery.Shell.Grammar
import Bindery.Shell.Tool

/-!
Contract: running scripts and programs.

Owns:
- opening the files of a command;
- running commands: simple ones, pipelines, loops, choices, functions, and shells inside of a shell;
- finding a program: by its path, or by its name in the directories of `PATH`, of which two hold
  the programs of the machine;
- starting a program: one of the machine, a shell with its options, a program in another
  environment, or a file whose first line names the program that reads it;
- the end of a shell: what it does at its exit, and its status.

A run has a fuel that bounds how deeply commands, calls and rounds of loops follow from each other.
-/

namespace Bindery.Shell

/-! ## Open files -/

def Session.open (session : Session) (descriptor : Nat) (opening : Opening) (name : String) :
    Session :=
  let refused (verb text : String) : Session :=
    session.fail ("cannot " ++ verb ++ " " ++ name ++ ": " ++ text)
  let copied (source : Nat) : Session :=
    match session.descriptors.lookup source with
    | some index =>
        { session with
          descriptors := (descriptor, index) ::
            session.descriptors.filter (·.1 != descriptor) }
    | none => refused "open" "No such file"
  let located := session.files.locate session.base (pathOf name)
  if name = "/dev/null" then session.attach descriptor .nothing
  else if name = "/dev/stdin" then copied 0
  else if name = "/dev/stdout" then copied 1
  else if name = "/dev/stderr" then copied 2
  else
    match opening with
    | .reading =>
        match name.isEmpty, located with
        | false, .ok place =>
            match session.files.find? place with
            | some .directory => session.attach descriptor .directory
            | some (.file _) => session.attach descriptor (.file place 0 false)
            | none => refused "open" "No such file"
        | false, .error (.io fault) =>
            refused "open"
              (if fault.cause = .nameTooLong then fault.cause.text else "No such file")
        | _, _ => refused "open" "No such file"
    | _ =>
        match name.isEmpty, located with
        | false, .ok place =>
            let appends : Bool := opening = Opening.appending
            let kept : Bool := appends || opening = Opening.updating
            match session.files.find? place with
            | some .directory => refused "create" "Is a directory"
            | some (.file _) =>
                if opening = .writing && session.has 'C' then refused "create" "File exists"
                else
                  (if kept then session else session.setContent place []).attach descriptor
                    (.file place 0 appends)
            | none =>
                { session with
                  files := session.files.put place (.file ⟨[], session.now, false⟩) }.attach
                    descriptor (.file place 0 appends)
        | false, .error (.io fault) =>
            refused "create"
              (if fault.cause = .nameTooLong then fault.cause.text else "Directory nonexistent")
        | _, _ => refused "create" "Directory nonexistent"

/-- Lets an open file lead to where another one does, or closes it. -/
def Session.copy (session : Session) (descriptor : Nat) (source : String) : Session :=
  if source = "-" then session.detach descriptor
  else
    match source.length, digits? source with
    | 1, some number =>
        match session.descriptors.lookup number with
        | some index =>
            { session with
              descriptors := (descriptor, index) ::
                session.descriptors.filter (·.1 != descriptor) }
        | none => session.fail (source ++ ": Bad file descriptor")
    | _, _ => { session.fail "Syntax error: Bad fd number" with flow := .over }

/-- The names of the files that a command opens. A text of the script has none. -/
def redirectNames (run : CommandRunner) : List Redirect → Step (List String)
  | [] => return []
  | redirect :: rest => do
      let name ←
        match redirect with
        | .file _ _ name => expandText run name
        | .copy _ source => expandText run source
        | .document _ _ => pure ""
      if !(← get).goesOn then return []
      return name :: (← redirectNames run rest)

/-- Opens files whose names are known, up to a fault. -/
def openEach (run : CommandRunner) : List (Redirect × String) → Session → Session
  | [], session => session
  | (redirect, name) :: rest, session =>
      let next :=
        match redirect with
        | .file descriptor opening _ => session.open descriptor opening name
        | .copy descriptor _ => session.copy descriptor name
        | .document descriptor index =>
            let parts := (session.documents.lookup index).getD []
            let (text, after) := (expandText run parts).run session
            if after.goesOn then after.attach descriptor (.supplying (bytesOf text.toList))
            else after
      if next.goesOn then openEach run rest next else next

/-- Opens the files of a command, up to a fault. A fault in a name ends the shell. -/
def redirected (run : CommandRunner) (redirects : List Redirect) (session : Session) : Session :=
  let (names, expanded) := (redirectNames run redirects).run session
  if expanded.goesOn then openEach run (redirects.zip names) expanded
  else { expanded with flow := if expanded.flow = .failed then .over else expanded.flow }

/-! ## Programs -/

/-- What a shell says about a program that was ended by a signal. -/
def signalTexts : List (Nat × String) := [
  (1, "Hangup"), (3, "Quit"), (4, "Illegal instruction"), (5, "Trace/breakpoint trap"),
  (6, "Aborted"), (7, "Bus error"), (8, "Floating point exception"), (9, "Killed"),
  (10, "User defined signal 1"), (11, "Segmentation fault"), (12, "User defined signal 2"),
  (14, "Alarm clock"), (15, "Terminated"), (16, "Stack fault"), (24, "CPU time limit exceeded"),
  (25, "File size limit exceeded"), (26, "Virtual timer expired"), (27, "Profiling timer expired"),
  (29, "I/O possible"), (30, "Power failure"), (31, "Bad system call")]

/-- The session after a program that was started in it. -/
def Session.awaited (session after : Session) : Session :=
  match after.flow with
  | .killed signal =>
      let told := session.absorb { after with flow := .onward, status := 128 + signal }
      match signalTexts.lookup signal with
      | some text => (told.write 2 (bytesOf (text ++ "\n").toList)).1
      | none => told
  | _ => session.absorb { after with status := after.status % 256 }

/-- The directories in which a shell looks for programs when nothing else is said. -/
def shellPath : String :=
  "/usr/local/sbin:/usr/local/bin:/usr/sbin:/usr/bin:/sbin:/bin"

/-- The directories in which programs are looked for where commands are started. -/
def defaultPath : String :=
  "/usr/local/bin:/usr/local/sbin:/usr/local/bin:/usr/sbin:/usr/bin:/sbin:/bin"

/-- The session of a program: it has names with values, and nothing else of its own. -/
def Session.program (session : Session) (name : String) (arguments : List String)
    (environment : List (String × String)) : Session :=
  let given := environment.map fun (key, value) => (⟨key, some value, true, false⟩ : Binding)
  let started := { session.inner with
    name := name
    arguments := arguments
    bindings := given
    functions := []
    options := []
    frames := []
    loops := 0
    depth := 0
    status := 0
    outputStatus := none
    background := none
    optionOffset := 0
    flow := .onward
    line := 1
    speaker := none }
  let own : List (String × String) := [
    ("IFS", " \t\n"), ("OPTIND", "1"), ("PPID", parentNumber), ("PS1", "# "), ("PS2", "> "),
    ("PS4", "+ "), ("PWD", started.directory)]
  let path : List (String × String) :=
    if (environment.lookup "PATH").isSome then [] else [("PATH", shellPath)]
  (own ++ path).foldl (fun session (key, value) => session.assign key value) started

inductive Program where
  | tool (use : Tool)
  | shell
  | environment
  | script (name : String) (text : List UInt8)

inductive Unavailable where
  | notFound
  | denied
  | other (cause : IoCause)
deriving DecidableEq, Repr

/-- The status that stands for a program that cannot be started. -/
def Unavailable.status : Unavailable → Int
  | notFound => 127
  | other .nameTooLong => 127
  | _ => 126

/-- What a shell says about a program that cannot be started. -/
def Unavailable.text : Unavailable → String
  | notFound => "not found"
  | denied => "Permission denied"
  | other cause => cause.text

/-- The program of the machine that has a name. -/
def machineProgram? (name : String) : Option Program :=
  if name = "sh" || name = "dash" then some .shell
  else if name = "env" then some .environment
  else (tools.lookup name).map .tool

/-- The directories that hold the programs of the machine. -/
def programDirectories : List String := ["/bin", "/usr/bin"]

def Session.scriptAt (session : Session) (path : String) : Except Unavailable Program :=
  match session.files.status session.base (pathOf path) with
  | .error (.io fault) =>
      .error (if fault.cause = .notFound || fault.cause = .notDirectory then .notFound
        else .other fault.cause)
  | .error _ => .error .notFound
  | .ok .directory => .error .denied
  | .ok (.file file) =>
      if file.executable then .ok (.script path file.content) else .error .denied

def Session.programAt (session : Session) (path : String) : Except Unavailable Program :=
  let parts := (Text.splitAt '/' path.toList).map String.ofList
  match machineProgram? (parts.getLastD "") with
  | some program =>
      if programDirectories.contains ("/".intercalate parts.dropLast) then .ok program
      else session.scriptAt path
  | none => session.scriptAt path

/-- The directories in which a session looks for programs. -/
def Session.searched (session : Session) : List String :=
  ((session.value? "PATH").map fun path =>
    (Text.splitAt ':' path.toList).map String.ofList).getD []

/-- The program that a name or a path names, and the path at which it is. -/
def Session.findProgram (session : Session) (name : String) :
    Except Unavailable (String × Program) :=
  if name.toList.contains '/' then (session.programAt name).map fun program => (name, program)
  else if name.isEmpty then .error .denied
  else
    let tried := session.searched.map fun directory =>
      let path := if directory.isEmpty then name else directory ++ "/" ++ name
      ((session.programAt path).map fun program => (path, program) :
        Except Unavailable (String × Program))
    match tried.findSome? Except.toOption with
    | some found => .ok found
    | none =>
        let refused := tried.any fun result =>
          match result with
          | .error .denied => true
          | _ => false
        .error (if refused then .denied else .notFound)

/-- The program and its argument that the first line of a file names. -/
def interpreterOf (content : List UInt8) : Option (String × List String) :=
  match octetsOf (content.takeWhile (· != 10)) with
  | '#' :: '!' :: rest =>
      let blank (c : Char) : Bool := c = ' ' || c = '\t'
      let line := ((rest.dropWhile blank).reverse.dropWhile blank).reverse
      let name := line.takeWhile fun c => !blank c
      let argument := (line.drop name.length).dropWhile blank
      if name.isEmpty then none
      else some (String.ofList name,
        if argument.isEmpty then [] else [String.ofList argument])
  | _ => none

/-! ## Simple commands -/

/-- What a name in front of a command refers to. -/
inductive CommandKind where
  | runs (name : String)
  | builtIn (use : BuiltIn)
  | function (body : Statement)
  | external

def Session.kindOf (session : Session) (name : String) (withFunctions : Bool) : CommandKind :=
  match if withFunctions then session.functions.lookup name else none with
  | some body => .function body
  | none =>
      if runningNames.contains name then .runs name
      else
        match builtIns.lookup name with
        | some use => .builtIn use
        | none => .external

def Session.described (session : Session) (name : String) : Option String :=
  if keywords.contains name then some "is a shell keyword"
  else if specialNames.contains name then some "is a special shell builtin"
  else if (session.functions.lookup name).isSome then some "is a shell function"
  else if isBuiltIn name then some "is a shell builtin"
  else (session.findProgram name).toOption.map fun (path, _) => "is " ++ path

def typed (session : Session) : List String → Session
  | [] => session
  | name :: rest =>
      match session.described name with
      | some text => typed (session.printText (name ++ " " ++ text ++ "\n")) rest
      | none => typed ((session.printText (name ++ ": not found\n")).ending 127) rest

def named (session : Session) (name : String) : Session :=
  if keywords.contains name || specialNames.contains name || isBuiltIn name ||
      (session.functions.lookup name).isSome then
    (session.printText (name ++ "\n")).ending 0
  else
    match session.findProgram name with
    | .ok (path, _) => (session.printText (path ++ "\n")).ending 0
    | .error _ => session.ending 127

def Session.traced (session : Session) (descriptors : List (Nat × Nat)) (words : List String) :
    Session :=
  if session.has 'x' then
    let sign := (session.value? "PS4").getD "+ "
    let shown := ({ session with descriptors := descriptors }.write 2
      (bytesOf (sign ++ " ".intercalate words ++ "\n").toList)).1
    { shown with descriptors := session.descriptors }
  else session

/-- Gives names their values for a command, and answers how they are written. -/
def assigned (run : CommandRunner) (exported : Bool) :
    List (String × List Part) → Session → List String × Session
  | [], session => ([], session)
  | (name, word) :: rest, session =>
      let (text, after) := (expandText run word).run session
      if !after.goesOn then ([], after)
      else
        let next :=
          if exported then after.assignExported name text else after.assign name text
        if !next.goesOn then ([], next)
        else
          let (written, last) := assigned run exported rest next
          ((name ++ "=" ++ text) :: written, last)

/-- The session after a command that is built in, with who speaks from then on. A fault ends the
shell only if the command is a special one. -/
def Session.settled (session : Session) (special : Bool) (speaker : Option String) : Session :=
  let quiet := { session with speaker := speaker }
  match session.flow with
  | .failed =>
      if special then { quiet with status := 2, flow := .over }
      else { quiet with status := 2, flow := .onward }
  | _ => quiet

/-- Ends the shell if it has to end at a status that is not zero. -/
def Session.checked (session : Session) (tested : Bool) : Session :=
  if session.goesOn && session.has 'e' && !tested && session.status != 0 then
    { session with flow := .over }
  else session

/-- How a loop goes on after a round: whether it is left, and with which flow. -/
def Session.afterRound (session : Session) : Bool × Session :=
  match session.flow with
  | .onward => (false, session)
  | .leave count =>
      (true, { session with flow := if count ≤ 1 then .onward else .leave (count - 1) })
  | .again count =>
      if count ≤ 1 then (false, { session with flow := .onward })
      else (true, { session with flow := .again (count - 1) })
  | _ => (true, session)

mutual

/-- Runs a text as the commands of a session, line by line. An idle text, without commands so far,
succeeds. -/
def runText : (fuel : Nat) → (tested idle : Bool) → Source → Session → Session
  | 0, _, _, _, session => { session with flow := .over }
  | fuel + 1, tested, idle, source, session =>
      if !session.goesOn then session
      else
        match readLine? source with
        | .error fault =>
            { session with line := fault.line }.fail
              ("Syntax error: " ++ fault.text)
        | .ok (none, _) => if idle then session.ending 0 else session
        | .ok (some commands, next) =>
            let known := { session with
              documents := next.documents ++ session.documents
              nextDocument := max next.nextDocument session.nextDocument }
            let after := commands.foldl
              (fun session command => evaluate fuel tested command session) known
            runText fuel tested (idle && commands.isEmpty)
              { next with
                documents := []
                nextDocument := max next.nextDocument after.nextDocument } after

/-- Runs the action for each signal that has come. -/
def runSignals : (fuel : Nat) → Session → Session
  | 0, session => session
  | fuel + 1, session =>
      match session.signals, session.flow with
      | number :: rest, .onward =>
          let quiet := { session with signals := rest }
          let action := (session.traps.lookup number).getD ""
          let source := Source.start action.toList 1 quiet.nextDocument
          let after := runText fuel false false source quiet
          runSignals fuel (if after.goesOn then after.ending session.status else after)
      | _, _ => session

/-- Ends a shell: runs what it does at its exit. -/
def finish : (fuel : Nat) → Session → Session
  | 0, session => session
  | fuel + 1, session =>
      match session.flow, session.traps.lookup 0 with
      | .killed _, _ => session
      | _, none => session
      | _, some action =>
          let ended := { session with traps := session.traps.filter (·.1 != 0), flow := .onward }
          let source := Source.start action.toList 1 ended.nextDocument
          let after := runText fuel false false source ended
          match after.flow with
          | .onward => after.ending session.status
          | _ => after

/-- Runs a command in a shell inside of a session. -/
def runInside : (fuel : Nat) → (tested : Bool) → Session → Statement → Session
  | 0, _, session, _ => { session with flow := .over }
  | fuel + 1, tested, session, command =>
      session.absorb (finish fuel (evaluate fuel tested command session.inner))

def runOutput : (fuel : Nat) → Session → List Statement → Session
  | 0, session, _ => { session with flow := .over }
  | fuel + 1, session, body =>
      let inner := session.inner
      finish fuel
        (if body.isEmpty then inner.ending 0 else evaluate fuel false (.sequence body) inner)

def evaluate : (fuel : Nat) → (tested : Bool) → Statement → Session → Session
  | 0, _, _, session => { session with flow := .over }
  | fuel + 1, tested, command, session =>
      let run : CommandRunner := fun session body => runOutput fuel session body
      if !session.goesOn || session.has 'n' then session
      else
        match command with
        | .simple line assignments words redirects =>
            (runSignals fuel
              (runSimple fuel tested assignments words redirects
                { session with line := line, outputStatus := none })).checked
              tested
        | .pipeline commands => (runPipeline fuel tested commands session).checked tested
        | .both first second =>
            let after := evaluate fuel true first session
            if after.goesOn && after.status = 0 then evaluate fuel tested second after else after
        | .either first second =>
            let after := evaluate fuel true first session
            if after.goesOn && after.status != 0 then evaluate fuel tested second after else after
        | .negated inner =>
            let after := evaluate fuel true inner session
            if after.goesOn then after.ending (if after.status = 0 then 1 else 0) else after
        | .background inner =>
            let after := runInside fuel false (session.attach 0 .nothing) inner
            { after with
              descriptors := session.descriptors
              background := some after.status
              status := 0 }
        | .sequence commands =>
            commands.foldl (fun session command => evaluate fuel tested command session) session
        | .subshell line body redirects =>
            let opened := redirected run redirects { session with line := line }
            let after :=
              if opened.goesOn then runInside fuel tested opened body
              else opened.settled false session.speaker
            { after with descriptors := session.descriptors }.checked tested
        | .redirected line inner redirects =>
            let opened := redirected run redirects { session with line := line }
            let after :=
              if opened.goesOn then evaluate fuel tested inner opened
              else opened.settled false session.speaker
            { after with descriptors := session.descriptors }
        | .choice test body otherwise =>
            let after := evaluate fuel true test session
            if !after.goesOn then after
            else if after.status = 0 then runBranch fuel tested body after
            else runBranch fuel tested otherwise after
        | .repeated untilOk test body =>
            let after := runRounds fuel tested untilOk test body 0
              { session with loops := session.loops + 1 }
            { after with loops := session.loops }
        | .forEach line name words body =>
            let (values, expanded) :=
              (expandWords run words).run { session with line := line }
            if !expanded.goesOn then expanded
            else
              let after := runEach fuel tested name values body
                { expanded with
                  loops := session.loops + 1
                  status := if values.isEmpty then 0 else expanded.status }
              { after with loops := session.loops }
        | .select line subject cases =>
            let (text, expanded) :=
              (expandText run subject).run { session with line := line }
            if !expanded.goesOn then expanded
            else runCases fuel tested text.toList cases expanded
        | .define name body =>
            { session with
              functions := (name, body) :: session.functions.filter (·.1 != name) }.ending 0

/-- Runs a command that has been chosen. No command at all succeeds. -/
def runBranch : (fuel : Nat) → (tested : Bool) → Statement → Session → Session
  | 0, _, _, session => { session with flow := .over }
  | fuel + 1, tested, body, session =>
      match body with
      | .sequence [] => session.ending 0
      | _ => evaluate fuel tested body session

/-- Runs the commands of a pipeline, each of which reads what the one before wrote. -/
def runPipeline : (fuel : Nat) → (tested : Bool) → List Statement → Session → Session
  | 0, _, _, session => { session with flow := .over }
  | _, _, [], session => session
  | fuel + 1, tested, [last], session => runInside fuel tested session last
  | fuel + 1, tested, first :: rest, session =>
      let index := session.channels.size
      let after := runInside fuel tested (session.attach 1 (.collecting [])) first
      if !after.goesOn then { after with descriptors := session.descriptors }
      else
        let fed :=
          { after with descriptors := session.descriptors, status := session.status }.attach 0
            (.supplying (after.collected index))
        { runPipeline fuel tested rest fed with descriptors := session.descriptors }

def runRounds : (fuel : Nat) → (tested untilOk : Bool) → (test body : Statement) →
    (status : Int) → Session → Session
  | 0, _, _, _, _, _, session => { session with flow := .over }
  | fuel + 1, tested, untilOk, test, body, status, session =>
      let judged := evaluate fuel true test session
      if !judged.goesOn then
        let (left, after) := judged.afterRound
        if left then
          match after.flow with
          | .onward => after.ending status
          | _ => after
        else runRounds fuel tested untilOk test body status after
      else if (judged.status = 0) = untilOk then judged.ending status
      else
        let (left, after) := (evaluate fuel tested body judged).afterRound
        if left then after else runRounds fuel tested untilOk test body after.status after

/-- Runs a command for each value of a name. -/
def runEach : (fuel : Nat) → (tested : Bool) → (name : String) → List String →
    (body : Statement) → Session → Session
  | 0, _, _, _, _, session => { session with flow := .over }
  | _, _, _, [], _, session => session
  | fuel + 1, tested, name, value :: rest, body, session =>
      let bound := session.assign name value
      if !bound.goesOn then bound
      else
        let (left, after) := (evaluate fuel tested body bound).afterRound
        if left then after else runEach fuel tested name rest body after

/-- Runs the first case with a pattern that covers a text. -/
def runCases : (fuel : Nat) → (tested : Bool) → List Char →
    List (List (List Part) × Statement) → Session → Session
  | 0, _, _, _, session => { session with flow := .over }
  | _, _, _, [], session => session.ending 0
  | fuel + 1, tested, text, (patterns, body) :: rest, session =>
      let run : CommandRunner := fun session body => runOutput fuel session body
      let (covered, after) := patterns.foldl
        (fun (state : Bool × Session) word =>
          if state.1 || !state.2.goesOn then state
          else
            let (pattern, next) := (expandPattern run word).run state.2
            (next.goesOn && pattern.covers text, next)) (false, session)
      if !after.goesOn then after
      else if covered then runBranch fuel tested body after
      else runCases fuel tested text rest after

def runSimple : (fuel : Nat) → (tested : Bool) → (assignments : List (String × List Part)) →
    (words : List (List Part)) → (redirects : List Redirect) → Session → Session
  | 0, _, _, _, _, session => { session with flow := .over }
  | fuel + 1, tested, assignments, words, redirects, session =>
      let run : CommandRunner := fun session body => runOutput fuel session body
      let (arguments, expanded) := (expandWords run words).run session
      if !expanded.goesOn then expanded
      else
        let opened := redirected run redirects expanded
        let special := arguments.head?.any specialNames.contains
        if !opened.goesOn then
          { opened with descriptors := session.descriptors }.settled special session.speaker
        else
          match arguments with
          | [] =>
              let (written, bound) := assigned run false assignments opened
              let shown :=
                if written.isEmpty then bound else bound.traced session.descriptors written
              { shown with
                descriptors := session.descriptors
                status := if bound.goesOn then bound.outputStatus.getD 0 else bound.status }
          | name :: rest =>
              let before := assignments.map fun (key, _) => (key, opened.binding? key)
              let (written, bound) := assigned run (!special) assignments opened
              if !bound.goesOn then { bound with descriptors := session.descriptors }
              else
                let shown := bound.traced session.descriptors (written ++ arguments)
                let after := runCommand fuel tested true name rest shown
                let restored :=
                  if special then after
                  else before.foldl (fun session (key, old) => session.rebind key old) after
                if name = "exec" then restored
                else { restored with descriptors := session.descriptors }

def runCommand : (fuel : Nat) → (tested withFunctions : Bool) → (name : String) →
    (arguments : List String) → Session → Session
  | 0, _, _, _, _, session => { session with flow := .over }
  | fuel + 1, tested, withFunctions, name, arguments, session =>
      let special := withFunctions && specialNames.contains name
      match session.kindOf name withFunctions with
      | .function body =>
          let called := evaluate fuel tested body
            { session with
              arguments := arguments
              frames := [] :: session.frames
              loops := 0 }
          let hidden := called.frames.headD []
          let restored := hidden.foldl (fun session (key, old) => session.rebind key old) called
          { restored with
            arguments := session.arguments
            frames := session.frames
            loops := session.loops
            flow := if restored.flow = .back then .onward else restored.flow }
      | .builtIn use =>
          (use { session with speaker := some name } arguments).settled special session.speaker
      | .external => runExternal fuel name arguments session
      | .runs "eval" =>
          if arguments.isEmpty then session.ending 0
          else
            (runText fuel tested true
              (.start (" ".intercalate arguments).toList 1 session.nextDocument)
              { session with speaker := some name }).settled special session.speaker
      | .runs "." =>
          let speaking := { session with speaker := some name }
          match arguments with
          | [] => session.ending 0
          | file :: _ =>
              if !file.toList.contains '/' then
                (speaking.fail (file ++ ": not found")).settled special session.speaker
              else
                let content : Except Fault (List UInt8) :=
                  if file = "/dev/null" then .ok []
                  else session.files.read session.base (pathOf file)
                match content with
                | .ok bytes =>
                    let after := (runText fuel false true
                      (.start (octetsOf bytes) 1 session.nextDocument) speaking).settled special
                        session.speaker
                    { after with flow := if after.flow = .back then .onward else after.flow }
                | .error _ =>
                    (speaking.fail ("cannot open " ++ file ++ ": No such file")).settled special
                      session.speaker
      | .runs "exec" =>
          match withoutDashes arguments with
          | [] => session.ending 0
          | program :: rest =>
              match startProgram fuel program rest session with
              | .ok after =>
                  let replaced := { session.absorb after with traps := [] }
                  match after.flow, session.depth with
                  | .killed signal, 0 => { replaced with flow := .killed signal }
                  | .killed signal, _ => { replaced with status := 128 + signal, flow := .over }
                  | _, _ => { replaced with status := after.status % 256, flow := .over }
              | .error cause =>
                  { ({ session with speaker := some name }.complain
                      (program ++ ": " ++ cause.text)).ending cause.status with
                    flow := .over }
      | .runs "command" =>
          match arguments with
          | [] => session.ending 0
          | "-v" :: target :: _ => named session target
          | "-V" :: target :: _ => typed (session.ending 0) [target]
          | "-p" :: target :: rest => runCommand fuel tested false target rest session
          | "--" :: target :: rest => runCommand fuel tested false target rest session
          | target :: rest => runCommand fuel tested false target rest session
      | .runs _ => typed (session.ending 0) arguments

def runExternal : (fuel : Nat) → (name : String) → (arguments : List String) → Session → Session
  | 0, _, _, session => { session with flow := .over }
  | fuel + 1, name, arguments, session =>
      match startProgram fuel name arguments session with
      | .ok after => session.awaited after
      | .error cause =>
          (session.complain (name ++ ": " ++ cause.text)).ending
            (if name.toList.contains '/' then cause.status else 127)

/-- Starts a program that is named as in a shell, and answers the session at its end. A file
without a first line that names a program is a script of the shell. -/
def startProgram : (fuel : Nat) → (name : String) → (arguments : List String) → Session →
    Except Unavailable Session
  | 0, _, _, _ => .error .notFound
  | fuel + 1, name, arguments, session => do
      let (_, program) ← session.findProgram name
      match program with
      | .script path text =>
          match interpreterOf text with
          | some _ => startFound fuel name arguments program session
          | none => startFound fuel "/bin/sh" (path :: arguments) .shell session
      | _ => startFound fuel name arguments program session

def startFound : (fuel : Nat) → (name : String) → (arguments : List String) → Program →
    Session → Except Unavailable Session
  | 0, _, _, _, _ => .error .notFound
  | fuel + 1, name, arguments, program, session => do
      let started := session.program name arguments session.environment
      match program with
      | .tool use => .ok (use started name arguments)
      | .shell => .ok (runShell fuel name arguments started)
      | .environment => .ok (runEnvironment fuel arguments started)
      | .script path text =>
          match interpreterOf text with
          | some (interpreter, argument) =>
              if interpreter.toList.contains '/' then
                startFound fuel interpreter (argument ++ path :: arguments)
                  (← session.programAt interpreter) session
              else .error .notFound
          | none => .error (.other .badFormat)

def runShell : (fuel : Nat) → (name : String) → (arguments : List String) → Session → Session
  | 0, _, _, session => session
  | fuel + 1, name, arguments, session =>
      let early := { session with line := 0 }
      let ran (text : List Char) (name : String) (arguments : List String) (session : Session) :
          Session :=
        let ready := { session with name := name, arguments := arguments, status := 0 }
        let after := runText fuel false true (.start text 1 ready.nextDocument) ready
        finish fuel
          { after with flow := if after.flow = .failed then .over else after.flow }
      let placed := early.assignExported "PWD" early.directory
      let reading := (BuiltIn.readOptions true (arguments.length + 1) ⟨placed, arguments, false⟩).1
      let set := { reading.session with line := session.line }
      if !set.goesOn then set
      else if reading.fromText then
        match reading.rest with
        | text :: more => ran text.toList (more.headD name) (more.drop 1) set
        | [] => early.fail "-c requires an argument"
      else
        match reading.rest, set.has 's' with
        | file :: more, false =>
            match file.isEmpty, set.files.status set.base (pathOf file) with
            | false, .ok (.file found) => ran (octetsOf found.content) file more set
            | false, .ok .directory => set.ending 0
            | _, _ => early.fail ("cannot open " ++ file ++ ": No such file")
        | more, _ =>
            let (text, after) := set.readAll 0
            ran (octetsOf text) name more after

def runEnvironment : (fuel : Nat) → (arguments : List String) → Session → Session
  | 0, _, session => session
  | fuel + 1, arguments, session =>
      match arguments with
      | [] => Tool.printenv session "env" []
      | "-i" :: rest => runEnvironment fuel rest { session with bindings := [] }
      | "-u" :: name :: rest => runEnvironment fuel rest (session.unbind name)
      | word :: rest =>
          match splitAssignment word.toList with
          | some (name, value) =>
              runEnvironment fuel rest (session.assignExported name (String.ofList value))
          | none =>
              let searching :=
                if (session.value? "PATH").isSome then session
                else session.assign "PATH" "/bin:/usr/bin"
              match startProgram fuel word rest searching with
              | .ok after => after
              | .error cause =>
                  (Tool.say session "env" (marked word ++ ": " ++
                    (if cause = .notFound then IoCause.notFound.text else cause.text))).ending
                    cause.status

end

/-- How deeply commands, calls and rounds of loops may follow from each other. -/
def runFuel : Nat := 100000

end Bindery.Shell
