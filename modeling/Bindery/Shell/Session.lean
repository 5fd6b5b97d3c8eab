import Bindery.FileStore
import Bindery.Shell.Octets
import Bindery.Shell.Script

/-!
Contract: the state of a shell that runs.

Owns:
- `Channel`, what an open file leads to: collected output, supplied input, a file of the store, a
  directory, or nothing;
- `Session`, everything that a command can see and change: files, channels, the values of names,
  functions, the working directory, options, traps, and how the run goes on;
- reading, writing and opening; the values of names and of the other parameters;
- what a shell says about a fault.

Channels and files are shared with the shells inside of a shell; everything else is their own.
-/

namespace Bindery.Shell

/-- What an open file leads to. Collected output is kept piece by piece, the last one first. -/
inductive Channel where
  | collecting (pieces : List (List UInt8))
  | supplying (left : List UInt8)
  | file (place : Place) (position : Nat) (appending : Bool)
  | directory
  | nothing
deriving DecidableEq, Repr

/-- What a name stands for. -/
structure Binding where
  name : String
  value : Option String
  exported : Bool
  fixed : Bool
deriving DecidableEq, Repr

/-- How a run goes on: with the next command, out of loops, with the next round of a loop, back to
where a function was called, with the handling of a fault, not at all, or by a signal not at all. -/
inductive Flow where
  | onward
  | leave (loops : Nat)
  | again (loops : Nat)
  | back
  | failed
  | over
  | killed (signal : Nat)
deriving DecidableEq, Repr

structure Session where
  name : String
  arguments : List String
  bindings : List Binding
  functions : List (String × Statement)
  base : Place
  files : FileStore
  now : Int
  channels : Array Channel
  descriptors : List (Nat × Nat)
  documents : List (Nat × List Part)
  nextDocument : Nat
  options : List Char
  traps : List (Nat × String)
  signals : List Nat
  depth : Nat
  strikes : List Nat
  mask : Nat
  frames : List (List (String × Option Binding))
  loops : Nat
  status : Int
  outputStatus : Option Int
  background : Option Int
  optionOffset : Nat
  flow : Flow
  line : Nat
  speaker : Option String

/-- The number under which a shell runs. -/
def processNumber : String := "4711"

/-- The number under which the program runs that started a shell. -/
def parentNumber : String := "4710"

/-- The number under which the last command in the background ran. -/
def backgroundNumber : String := "4712"

namespace Session

/-! ## Channels -/

def channel? (session : Session) (descriptor : Nat) : Option (Nat × Channel) := do
  let index ← session.descriptors.lookup descriptor
  let channel ← session.channels[index]?
  return (index, channel)

def setChannel (session : Session) (index : Nat) (channel : Channel) : Session :=
  { session with channels := session.channels.setIfInBounds index channel }

/-- The session with one more channel, which an open file leads to. -/
def attach (session : Session) (descriptor : Nat) (channel : Channel) : Session :=
  { session with
    channels := session.channels.push channel
    descriptors := (descriptor, session.channels.size) ::
      session.descriptors.filter (·.1 != descriptor) }

def detach (session : Session) (descriptor : Nat) : Session :=
  { session with descriptors := session.descriptors.filter (·.1 != descriptor) }

/-- The content of a file, if there is one. -/
def contentAt (session : Session) (place : Place) : List UInt8 :=
  match session.files.find? place with
  | some (.file file) => file.content
  | _ => []

def setContent (session : Session) (place : Place) (content : List UInt8) : Session :=
  match session.files.find? place with
  | some (.file file) =>
      { session with
        files := session.files.put place (.file ⟨content, session.now, file.executable⟩) }
  | _ => session

/-- Writes to an open file, and answers whether it could be written. -/
def write (session : Session) (descriptor : Nat) (bytes : List UInt8) : Session × Bool :=
  match session.channel? descriptor with
  | some (index, .collecting pieces) =>
      (session.setChannel index (.collecting (bytes :: pieces)), true)
  | some (index, .file place position appending) =>
      let old := session.contentAt place
      let start := if appending then old.length else position
      let padding := List.replicate (start - old.length) 0
      let content := old.take start ++ padding ++ bytes ++ old.drop (start + bytes.length)
      ((session.setContent place content).setChannel index
        (.file place (start + bytes.length) appending), true)
  | some (_, .nothing) => (session, true)
  | _ => (session, bytes.isEmpty)

def print (session : Session) (bytes : List UInt8) : Session :=
  (session.write 1 bytes).1

def printText (session : Session) (text : String) : Session :=
  session.print (bytesOf text.toList)

/-- What is left to read from an open file. -/
def unread (session : Session) (descriptor : Nat) : List UInt8 :=
  match session.channel? descriptor with
  | some (_, .supplying left) => left
  | some (_, .file place position _) => (session.contentAt place).drop position
  | _ => []

/-- Goes behind a number of bytes of an open file. -/
def advance (session : Session) (descriptor count : Nat) : Session :=
  match session.channel? descriptor with
  | some (index, .supplying left) => session.setChannel index (.supplying (left.drop count))
  | some (index, .file place position appending) =>
      session.setChannel index (.file place (position + count) appending)
  | _ => session

def readAll (session : Session) (descriptor : Nat) : List UInt8 × Session :=
  let content := session.unread descriptor
  (content, session.advance descriptor content.length)

def collected (session : Session) (index : Nat) : List UInt8 :=
  match session.channels[index]? with
  | some (.collecting pieces) => pieces.reverse.flatten
  | _ => []

/-! ## Faults -/

def complain (session : Session) (text : String) : Session :=
  let speaker := (session.speaker.map (· ++ ": ")).getD ""
  (session.write 2 (bytesOf (session.name ++ ": " ++ toString session.line ++ ": " ++ speaker ++
    text ++ "\n").toList)).1

/-- The session after a fault that ends a command, and with it a script. -/
def fail (session : Session) (text : String) : Session :=
  { session.complain text with status := 2, flow := .failed }

/-- The session with the status of its last command. -/
def ending (session : Session) (status : Int) : Session :=
  { session with status := status }

/-- The signals that do nothing to a program that does not wait for them. -/
def harmlessSignals : List Nat := [0, 17, 18, 19, 20, 21, 22, 23, 28]

/-- The session of a shell to which a signal was sent. A shell inside of another one only passes it
on to the outermost one, and goes on. -/
def strike (session : Session) (number : Nat) : Session :=
  if 0 < session.depth then { session with strikes := session.strikes ++ [number] }
  else
    match if number = 9 then none else session.traps.lookup number with
    | some "" => session
    | some _ => { session with signals := session.signals ++ [number] }
    | none =>
        if harmlessSignals.contains number then session
        else { session with flow := .killed number }

/-- Whether nothing keeps a session from its next command. -/
def goesOn (session : Session) : Bool :=
  session.flow = .onward

/-! ## Names -/

def binding? (session : Session) (name : String) : Option Binding :=
  session.bindings.find? (·.name = name)

def bind (session : Session) (binding : Binding) : Session :=
  { session with
    bindings :=
      if session.bindings.any (·.name = binding.name) then
        session.bindings.map fun old => if old.name = binding.name then binding else old
      else session.bindings ++ [binding] }

def unbind (session : Session) (name : String) : Session :=
  { session with bindings := session.bindings.filter (·.name != name) }

/-- The session with what a name stood for before. -/
def rebind (session : Session) (name : String) : Option Binding → Session
  | some binding => session.bind binding
  | none => session.unbind name

/-- Gives a name a value. The number of the next option begins a new reading of options. -/
def assign (session : Session) (name value : String) : Session :=
  let session := if name = "OPTIND" then { session with optionOffset := 0 } else session
  match session.binding? name with
  | some old =>
      if old.fixed then session.fail (name ++ ": is read only")
      else session.bind { old with value := some value }
  | none => session.bind ⟨name, some value, session.options.contains 'a', false⟩

def assignExported (session : Session) (name value : String) : Session :=
  let assigned := session.assign name value
  match assigned.binding? name with
  | some binding =>
      if assigned.goesOn then assigned.bind { binding with exported := true } else assigned
  | none => assigned

def environment (session : Session) : List (String × String) :=
  session.bindings.filterMap fun binding =>
    if binding.exported then binding.value.map fun value => (binding.name, value) else none

def directory (session : Session) : String :=
  octets (Path.ofPlace session.base).render

def has (session : Session) (option : Char) : Bool :=
  session.options.contains option

/-- The value of a parameter that is not all the arguments. -/
def value? (session : Session) (name : String) : Option String :=
  if name = "?" then some (toString session.status)
  else if name = "$" then some processNumber
  else if name = "#" then some (toString session.arguments.length)
  else if name = "-" then some (String.ofList session.options)
  else if name = "!" then session.background.map fun _ => backgroundNumber
  else
    match name.toNat? with
    | some number => (session.name :: session.arguments)[number]?
    | none => (session.binding? name).bind Binding.value

/-- The characters at which values are cut into words. -/
def separators (session : Session) : List Char :=
  match session.value? "IFS" with
  | some value => value.toList
  | none => [' ', '\t', '\n']

/-- What stands between all the arguments when they are one word. -/
def joint (session : Session) : List Char :=
  session.separators.take 1

/-! ## Shells inside of a shell -/

/-- The session at the start of a shell inside of a shell. It keeps only the signals that are
ignored. -/
def inner (session : Session) : Session :=
  { session with
    traps := session.traps.filter (·.2.isEmpty)
    signals := []
    depth := session.depth + 1
    strikes := [] }

/-- The session after a shell inside of it. -/
def absorb (session after : Session) : Session :=
  let absorbed := { session with
    files := after.files
    channels := after.channels
    documents := after.documents
    nextDocument := after.nextDocument
    status := after.status }
  after.strikes.foldl strike absorbed

end Session

end Bindery.Shell
