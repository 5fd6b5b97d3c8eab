import Bindery.Shell.Script

/-!
Contract: the words of a script, read from its characters.

Owns:
- `Source`, a script of which a part has been read, and `Reading`, a step that reads more of it;
- `readParts`, which reads the parts of a word up to where its region ends: at a blank or a sign,
  at the closing quote or brace, at the end of a formula, or at the end of a text;
- the parameters, with what is done with them between braces;
- output in backward quotes, whose text is taken out before it is read.

Does not own: commands. Whoever reads a word says how the commands inside of it are read.
-/

namespace Bindery.Shell

/-- Why a text is no script, and the line that shows it. -/
structure ScriptFault where
  line : Nat
  text : String
deriving DecidableEq, Repr

inductive RedirectSign where
  | opens (opening : Opening)
  | copies (input : Bool)
  | document (withoutTabs : Bool)
deriving DecidableEq, Repr

inductive Token where
  | word (parts : List Part)
  | redirect (descriptor : Option Nat) (sign : RedirectSign)
  | newline
  | semicolon
  | doubleSemicolon
  | ampersand
  | whenOk
  | whenFailed
  | pipe
  | opening
  | closing
  | ending

/-- A text that follows on the next lines, up to a line with its mark. -/
structure Awaited where
  index : Nat
  mark : List Char
  verbatim : Bool
  withoutTabs : Bool
deriving DecidableEq, Repr

/-- A script of which a part has been read. -/
structure Source where
  text : List Char
  line : Nat
  pushed : Option Token
  awaited : List Awaited
  documents : List (Nat × List Part)
  nextDocument : Nat

/-- The script that a text is, from a line on. -/
def Source.start (text : List Char) (line nextDocument : Nat) : Source :=
  ⟨text, line, none, [], [], nextDocument⟩

/-- A step that reads a part of a script. -/
abbrev Reading (α : Type) := StateT Source (Except ScriptFault) α

/-- Refuses the script at the line that has been reached. -/
def refuse {α : Type} (text : String) : Reading α := do
  throw ⟨(← get).line, text⟩

/-- The text without the line ends in front of it that a backslash takes away, and their number. -/
def joinedLines : List Char → List Char × Nat
  | '\\' :: '\n' :: rest =>
      let (text, count) := joinedLines rest
      (text, count + 1)
  | text => (text, 0)

/-- Goes behind the line ends that a backslash takes away, and answers what is there. -/
def look : Reading (List Char) :=
  modifyGet fun source =>
    let (text, count) := joinedLines source.text
    (text, { source with text := text, line := source.line + count })

def lineEnds (text : List Char) : Nat :=
  text.count '\n'

def skip (count : Nat) : Reading Unit :=
  modify fun source =>
    { source with
      text := source.text.drop count
      line := source.line + lineEnds (source.text.take count) }

inductive Region where
  | word
  | quotes
  | braces (quoted : Bool)
  | document
  | formula (depth : Nat)
deriving DecidableEq, Repr

namespace Region

def isQuoted : Region → Bool
  | word => false
  | braces quoted => quoted
  | _ => true

/-- Why a region cannot end with the script. -/
def unfinished? : Region → Option String
  | word => none
  | document => none
  | quotes => some "Unterminated quoted string"
  | braces true => some "Unterminated quoted string"
  | braces false => some "Missing '\x7d'"
  | formula _ => some "Missing '))'"

end Region

def endsWord (c : Char) : Bool :=
  c = ' ' || c = '\t' || c = '\n' || c = ';' || c = '&' || c = '|' || c = '<' || c = '>' ||
    c = '(' || c = ')'

/-- The quote that runs backward. -/
def isBackQuote (c : Char) : Bool :=
  c.toNat == 96

/-- Whether a backslash takes away the meaning of a character in a quoted region. -/
def Region.protects (region : Region) (c : Char) : Bool :=
  c = '\\' || c = '$' || isBackQuote c || (c = '"' && region != .document) ||
    (c = '\x7d' && region = .braces true)

def consText (quoted : Bool) (chars : List Char) : List Part → List Part
  | .text same more :: rest =>
      if same = quoted then .text quoted (chars ++ more) :: rest
      else .text quoted chars :: .text same more :: rest
  | parts => .text quoted chars :: parts

/-- The text up to a backward quote, without the backslashes that protect it, and what is behind
the quote. -/
def untilBackQuote (quoted : Bool) : List Char → Option (List Char × List Char)
  | [] => none
  | '\\' :: '\n' :: rest => untilBackQuote quoted rest
  | '\\' :: c :: rest =>
      let kept : List Char :=
        if c = '\\' || c = '$' || isBackQuote c || (quoted && c = '"') then [c] else ['\\', c]
      (untilBackQuote quoted rest).map fun (inner, left) => (kept ++ inner, left)
  | c :: rest =>
      if isBackQuote c then some ([], rest)
      else (untilBackQuote quoted rest).map fun (inner, left) => (c :: inner, left)

/-- Reads what is done with a parameter, behind its name. -/
def readAction (text : List Char) : Action × Nat :=
  let chosen (sign : Char) (forEmpty : Bool) : Option Action :=
    if sign = '-' then some (.orElse forEmpty)
    else if sign = '=' then some (.orAssign forEmpty)
    else if sign = '?' then some (.orComplain forEmpty)
    else if sign = '+' then some (.instead forEmpty)
    else none
  match text with
  | '\x7d' :: _ => (.plain, 0)
  | ':' :: '\x7d' :: _ => (.plain, 2)
  | ':' :: sign :: _ =>
      match chosen sign true with
      | some action => (action, 2)
      | none => (.unknown, 1)
  | '%' :: '%' :: _ => (.cutBack true, 2)
  | '%' :: _ => (.cutBack false, 1)
  | '#' :: '#' :: _ => (.cutFront true, 2)
  | '#' :: _ => (.cutFront false, 1)
  | sign :: _ =>
      match chosen sign false with
      | some action => (action, 1)
      | none => (.unknown, 0)
  | [] => (.unknown, 0)

/-- The name of a parameter in front of a text. -/
def parameterName (text : List Char) : List Char :=
  match text with
  | c :: _ =>
      if isNameStart c then text.takeWhile isNameChar
      else if c.isDigit then text.takeWhile Char.isDigit
      else if isSpecialName c then [c]
      else []
  | [] => []

/-- Reads the front of a parameter between braces: its name, what is done with it, and the number
of characters in front of the word that comes then. -/
def readBraced (text : List Char) : List Char × Action × Nat :=
  let named (text : List Char) : List Char × Action × Nat :=
    let name := parameterName text
    if name.isEmpty then ([], .unknown, 0)
    else
      let (action, signs) := readAction (text.drop name.length)
      (name, action, name.length + signs)
  let measured (rest : List Char) : List Char × Action × Nat :=
    let name := parameterName rest
    if !name.isEmpty && (rest.drop name.length).head? = some '\x7d' then
      (name, .length, name.length + 1)
    else ([], .unknown, 0)
  match text with
  | '#' :: c :: rest =>
      if isNameChar c then measured (c :: rest)
      else if c != '\x7d' && rest.head? = some '\x7d' then measured (c :: rest)
      else named text
  | _ => named text

/-- How the commands inside of a word are read: up to a closing sign, or to the end of a text. -/
abbrev CommandReader := (closed : Bool) → Reading (List Statement)

/-- Reads the output of commands between backward quotes, behind the first one. -/
def readBackQuoted (commands : CommandReader) (quoted : Bool) : Reading Part := do
  let outer ← get
  match untilBackQuote quoted outer.text with
  | none =>
      skip outer.text.length
      refuse "EOF in backquote substitution"
  | some (inner, rest) =>
      set { outer with text := inner, line := 1, pushed := none, awaited := [] }
      let body ← commands false
      let after ← get
      let taken := outer.text.length - rest.length
      set { after with
        text := rest
        line := outer.line + lineEnds (outer.text.take taken)
        pushed := outer.pushed
        awaited := outer.awaited }
      return .output quoted body

/-- Reads the output of commands between brackets, behind the opening one. -/
def readOutput (commands : CommandReader) (quoted : Bool) : Reading Part := do
  let outer ← get
  set { outer with pushed := none, awaited := [] }
  let body ← commands true
  modify fun after => { after with pushed := outer.pushed, awaited := outer.awaited }
  return .output quoted body

def readDollar (commands : CommandReader) (within : Region → Reading (List Part))
    (region : Region) : Reading Part := do
  let quoted := region.isQuoted
  match ← look with
  | '(' :: _ =>
      skip 1
      match ← look with
      | '(' :: _ =>
          skip 1
          return .formula quoted (← within (.formula 0))
      | _ => readOutput commands quoted
  | '\x7b' :: _ =>
      skip 1
      let text ← look
      let (name, action, length) := readBraced text
      skip length
      match action with
      | .plain =>
          let _ ← within (.braces quoted)
          return .parameter quoted (String.ofList name) .plain []
      | .cutFront _ | .cutBack _ =>
          return .parameter quoted (String.ofList name) action (← within (.braces false))
      | _ => return .parameter quoted (String.ofList name) action (← within (.braces quoted))
  | c :: rest =>
      if isNameStart c then
        let name := (c :: rest).takeWhile isNameChar
        skip name.length
        return .parameter quoted (String.ofList name) .plain []
      else if isSpecialName c then
        skip 1
        return .parameter quoted (String.ofList [c]) .plain []
      else return .text quoted ['$']
  | [] => return .text quoted ['$']

def consPart : Part → List Part → List Part
  | .text quoted chars, parts => consText quoted chars parts
  | part, parts => part :: parts

/-- Reads the parts of a word to the end of their region. -/
def readParts (commands : CommandReader) : (fuel : Nat) → Region → Reading (List Part)
  | 0, _ => refuse "Script too long"
  | fuel + 1, region => do
      let continued (quoted : Bool) (chars : List Char) (count : Nat) (next : Region) :
          Reading (List Part) := do
        skip count
        return consText quoted chars (← readParts commands fuel next)
      let text ← look
      match text with
      | [] =>
          match region.unfinished? with
          | some fault => refuse fault
          | none => return []
      | c :: rest =>
          let quoted := region.isQuoted
          if region = .word && endsWord c then return []
          else if region = .quotes && c = '"' then
            skip 1
            return []
          else if (region = .braces true || region = .braces false) && c = '\x7d' then
            skip 1
            return []
          else if c = '\\' then
            match rest with
            | [] => continued true ['\\'] 1 region
            | next :: _ =>
                if !quoted then continued true [next] 2 region
                else if region.protects next then continued true [next] 2 region
                else continued true ['\\', next] 2 region
          else if c = '$' then
            skip 1
            let part ← readDollar commands (readParts commands fuel) region
            return consPart part (← readParts commands fuel region)
          else if isBackQuote c then
            skip 1
            let part ← readBackQuoted commands quoted
            return consPart part (← readParts commands fuel region)
          else if c = '"' && (!quoted || region = .braces true) then
            skip 1
            let inside ← readParts commands fuel .quotes
            let parts ← readParts commands fuel region
            -- Quotes make a word even without a character, unless all they hold is the arguments.
            let whole := if rest.take 3 = "$@\"".toList then inside else consText true [] inside
            return whole.foldr consPart parts
          else if c = '\'' && !quoted then
            let inside := rest.takeWhile (· != '\'')
            if inside.length = rest.length then
              skip (rest.length + 1)
              refuse "Unterminated quoted string"
            else continued true inside (inside.length + 2) region
          else
            match region with
            | .formula depth =>
                if c = '(' then continued true [c] 1 (.formula (depth + 1))
                else if c != ')' then continued true [c] 1 region
                else
                  match depth with
                  | less + 1 => continued true [c] 1 (.formula less)
                  | 0 =>
                      skip 1
                      match ← look with
                      | ')' :: _ =>
                          skip 1
                          return []
                      | _ => return consText true [')'] (← readParts commands fuel region)
            | _ => continued quoted [c] 1 region

end Bindery.Shell
