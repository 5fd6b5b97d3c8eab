import Bindery.Shell.Field
import Bindery.Shell.Formula

/-!
Contract: from the parts of a word to glyphs, in a session that this may change.

Owns:
- the value of a parameter, with what is done with it;
- the output of commands, run in a shell of their own, without the line ends behind it;
- the value of a formula;
- the home directory in front of a word;
- `expandWords`, the words of a command, and `expandText`, the text of a word that is not cut.

Does not own: running commands. Whoever expands a word says how.
-/

namespace Bindery.Shell

abbrev Step := StateM Session

/-- How the commands inside of a word are run. -/
abbrev CommandRunner := Session → List Statement → Session

/-- The glyphs of a text that is put in. -/
def insertedGlyphs (quoted : Bool) (text : String) : List Glyph :=
  text.toList.map fun c => if quoted then .quoted c else .loose c

/-- The glyphs of all the arguments, one word each. -/
def argumentGlyphs (quoted : Bool) (arguments : List String) : List Glyph :=
  List.intercalate [.gap] (arguments.map fun argument =>
    if quoted && argument.isEmpty then [.mark] else insertedGlyphs quoted argument)

def Session.parameterGlyphs (session : Session) (quoted : Bool) (name : String) : List Glyph :=
  if name = "@" || (name = "*" && !quoted) then argumentGlyphs quoted session.arguments
  else if name = "*" then
    insertedGlyphs true ((String.ofList session.joint).intercalate session.arguments)
  else insertedGlyphs quoted ((session.value? name).getD "")

def Session.parameterText? (session : Session) (name : String) : Option String :=
  if name = "@" || name = "*" then
    some ((String.ofList session.joint).intercalate session.arguments)
  else session.value? name

/-- Runs commands in a shell of their own, and answers what they print. -/
def outputOf (run : CommandRunner) (body : List Statement) : Step (List Char) :=
  modifyGet fun session =>
    let index := session.channels.size
    let inner := run (session.attach 1 (.collecting [])) body
    let printed := (inner.collected index).filter (· != 0)
    let kept := (printed.reverse.dropWhile (· = 10)).reverse
    (octetsOf kept,
      { session.absorb inner with status := session.status, outputStatus := some inner.status })

def failing (text : String) : Step (List Glyph) := do
  modify (·.fail text)
  return []

def computed (quoted : Bool) (source : String) : Step (List Glyph) := do
  let session ← get
  match session.compute source with
  | .ok (value, after) =>
      set after
      return insertedGlyphs quoted (toString value)
  | .error fault => failing (fault.text source)

/-- Whether a value counts as one. -/
def counts (forEmpty : Bool) (value : Option String) : Bool :=
  match value with
  | some text => !(forEmpty && text.isEmpty)
  | none => false

/-- The glyphs of the value of a parameter whose front or back is cut off. In a word that may be
cut, all the arguments are still apart from each other there, and what a pattern has to cover ends
with the argument in which it begins. -/
def Session.valueGlyphs (session : Session) (cuts quoted : Bool) (name : String) : List Glyph :=
  if cuts then session.parameterGlyphs quoted name
  else insertedGlyphs quoted ((session.parameterText? name).getD "")

mutual

/-- The glyphs of a part, of a word that may be cut into fields or of one that is not. -/
def expandPart (run : CommandRunner) (cuts : Bool) : Part → Step (List Glyph)
  | .text true [] => return [.mark]
  | .text true chars => return chars.map .quoted
  | .text false chars => return chars.map .plain
  | .output quoted body => do
      let printed ← outputOf run body
      return printed.map fun c => if quoted then .quoted c else .loose c
  | .formula quoted text => do
      let glyphs ← expandParts run false text
      if !(← get).goesOn then return []
      computed quoted (String.ofList (glyphText [' '] glyphs))
  | .parameter quoted name action word => do
      let session ← get
      let value := session.parameterText? name
      let missing : Bool := session.has 'u' && value.isNone && name != "@" && name != "*" &&
        name != "!"
      let own : List Glyph := session.parameterGlyphs quoted name
      match action with
      | .plain =>
          if missing then failing (name ++ ": parameter not set") else return own
      | .length =>
          if missing then failing (name ++ ": parameter not set")
          else return insertedGlyphs quoted (toString (value.getD "").length)
      | .orElse forEmpty =>
          if counts forEmpty value then return own
          else
            let glyphs ← expandParts run cuts word
            return if quoted then glyphs else glyphs.map Glyph.loosened
      | .instead forEmpty =>
          if !counts forEmpty value then return []
          else
            let glyphs ← expandParts run cuts word
            return if quoted then glyphs else glyphs.map Glyph.loosened
      | .orAssign forEmpty =>
          if counts forEmpty value then return own
          else
            let glyphs ← expandParts run false word
            if !(← get).goesOn then return []
            if isName name.toList then
              let text := String.ofList (glyphText (← get).joint glyphs)
              modify (·.assign name text)
              return (← get).parameterGlyphs quoted name
            else failing (name ++ ": bad variable name")
      | .orComplain forEmpty =>
          if counts forEmpty value then return own
          else
            let glyphs ← expandParts run false word
            if !(← get).goesOn then return []
            let text := String.ofList (glyphText (← get).joint glyphs)
            let shown :=
              if !word.isEmpty then text
              else if forEmpty then "parameter not set or null"
              else "parameter not set"
            failing (name ++ ": " ++ shown)
      | .cutFront longest =>
          if missing then failing (name ++ ": parameter not set")
          else
            let glyphs ← expandParts run false word
            return cutGlyphsFront (glyphPattern glyphs) longest
              (session.valueGlyphs cuts quoted name)
      | .cutBack longest =>
          if missing then failing (name ++ ": parameter not set")
          else
            let glyphs ← expandParts run false word
            return cutGlyphsBack (glyphPattern glyphs) longest
              (session.valueGlyphs cuts quoted name)
      | .unknown => failing "Bad substitution"

def expandParts (run : CommandRunner) (cuts : Bool) : List Part → Step (List Glyph)
  | [] => return []
  | part :: rest => do
      let glyphs ← expandPart run cuts part
      if !(← get).goesOn then return glyphs
      return glyphs ++ (← expandParts run cuts rest)

end

/-- The text behind the sign for the home directory, if a text begins with it. -/
def behindHome? (chars : List Char) (last : Bool) : Option (List Char) :=
  match chars with
  | '~' :: rest =>
      match rest with
      | [] => if last then some [] else none
      | '/' :: _ => some rest
      | _ => none
  | _ => none

/-- The parts of a word, with the home directory in front if the word asks for it. -/
def Session.atHome (session : Session) (parts : List Part) : List Part :=
  match parts, session.value? "HOME" with
  | .text false chars :: rest, some home =>
      match behindHome? chars rest.isEmpty with
      | some left => .text true home.toList :: .text false left :: rest
      | none => parts
  | _, _ => parts

def expandWord (run : CommandRunner) (word : List Part) : Step (List String) := do
  let glyphs ← expandParts run true ((← get).atHome word)
  let session ← get
  return if session.goesOn then session.words glyphs else []

def expandWords (run : CommandRunner) : List (List Part) → Step (List String)
  | [] => return []
  | word :: rest => do
      let first ← expandWord run word
      if !(← get).goesOn then return first
      return first ++ (← expandWords run rest)

/-- The text of a word that is not cut. -/
def expandText (run : CommandRunner) (word : List Part) : Step String := do
  let glyphs ← expandParts run false ((← get).atHome word)
  return String.ofList (glyphText (← get).joint glyphs)

def expandPattern (run : CommandRunner) (word : List Part) : Step Wildcard := do
  return glyphPattern (← expandParts run false ((← get).atHome word))

end Bindery.Shell
