import Bindery.Shell.Word
import Bindery.Text.Lines

/-!
Contract: the commands of a script, read line by line.

Owns:
- the signs between words, and the texts that follow on the next lines;
- the words that have a meaning where a command can begin;
- `readLine?`, which reads the commands of the next line, and of as many lines behind it as they
  need. A script is run line by line, so what is wrong with a line shows only when it is reached.
-/

namespace Bindery.Shell

/-! ## Signs -/

/-- The words that have a meaning where a command can begin. -/
def keywords : List String := [
  "!", "case", "do", "done", "elif", "else", "esac", "fi", "for", "if", "in", "then", "until",
  "while", "\x7b", "\x7d"]

def Token.keyword? : Token → Option String
  | .word parts => do
      let name := String.ofList (← literal? parts)
      if keywords.contains name then some name else none
  | _ => none

def Token.isKeyword (token : Token) (name : String) : Bool :=
  token.keyword? = some name

def Token.show (token : Token) (asKeyword : Bool) : String :=
  match token with
  | .word _ =>
      match token.keyword? with
      | some name => if asKeyword then "\"" ++ name ++ "\"" else "word"
      | none => "word"
  | .redirect .. => "redirection"
  | .newline => "newline"
  | .semicolon => "\";\""
  | .doubleSemicolon => "\";;\""
  | .ampersand => "\"&\""
  | .whenOk => "\"&&\""
  | .whenFailed => "\"||\""
  | .pipe => "\"|\""
  | .opening => "\"(\""
  | .closing => "\")\""
  | .ending => "end of file"

def Token.endsList (token : Token) : Bool :=
  match token with
  | .closing => true
  | .doubleSemicolon => true
  | .ending => true
  | _ =>
      ["do", "done", "elif", "else", "esac", "fi", "then", "\x7d"].any fun name =>
        token.isKeyword name

def unexpected {α : Type} (token : Token) (asKeyword : Bool) (expected : Option String) :
    Reading α :=
  refuse (token.show asKeyword ++ " unexpected" ++
    (match expected with
    | some name => " (expecting " ++ name ++ ")"
    | none => ""))

def push (token : Token) : Reading Unit :=
  modify fun source => { source with pushed := some token }

def skipBlanks : (fuel : Nat) → Reading Unit
  | 0 => pure ()
  | fuel + 1 => do
      match ← look with
      | ' ' :: _ =>
          skip 1
          skipBlanks fuel
      | '\t' :: _ =>
          skip 1
          skipBlanks fuel
      | '#' :: rest =>
          skip (rest.takeWhile (· != '\n')).length.succ
          skipBlanks fuel
      | _ => pure ()

/-- Whether a line ends with a backslash that joins it with the next one. -/
def joinsNext (line : List Char) : Bool :=
  (line.reverse.takeWhile (· = '\\')).length % 2 = 1

/-- The lines up to the mark of an awaited text, and the number of lines taken with the mark. -/
def linesUntilMark (awaited : Awaited) : (joined : Bool) → List (List Char) →
    List (List Char) × Option Nat
  | _, [] => ([], none)
  | joined, line :: rest =>
      let shown := if awaited.withoutTabs then line.dropWhile (· = '\t') else line
      if shown = awaited.mark && !joined then ([], some 1)
      else
        let (lines, count) := linesUntilMark awaited (!awaited.verbatim && joinsNext line) rest
        (shown :: lines, count.map (· + 1))

def readDocuments (commands : CommandReader) (fuel : Nat) : List Awaited → Reading Unit
  | [] => pure ()
  | awaited :: rest => do
      let source ← get
      let (lines, count) := linesUntilMark awaited false (Text.splitAt '\n' source.text)
      let (body, left) : List Char × List Char :=
        match count with
        | some count =>
            (lines.flatMap (· ++ ['\n']),
              List.intercalate ['\n'] ((Text.splitAt '\n' source.text).drop count))
        | none => (List.intercalate ['\n'] lines, [])
      let parts ←
        if awaited.verbatim then pure [.text true body]
        else do
          set { source with text := body, pushed := none }
          readParts commands fuel .document
      modify fun after =>
        { after with
          text := left
          line := source.line + lineEnds (source.text.take (source.text.length - left.length))
          pushed := source.pushed
          documents := (awaited.index, parts) :: after.documents }
      readDocuments commands fuel rest

/-- Reads all texts that are awaited where a line ends. -/
def readAwaited (commands : CommandReader) (fuel : Nat) : Reading Unit := do
  let source ← get
  set { source with awaited := [] }
  readDocuments commands fuel source.awaited

/-- Reads a sign that redirects an open file, behind its first character. -/
def readRedirectSign (outward : Bool) : Reading RedirectSign := do
  let text ← look
  if outward then
    match text with
    | '>' :: _ =>
        skip 1
        return .opens .appending
    | '|' :: _ =>
        skip 1
        return .opens .replacing
    | '&' :: _ =>
        skip 1
        return .copies false
    | _ => return .opens .writing
  else
    match text with
    | '<' :: _ =>
        skip 1
        match ← look with
        | '-' :: _ =>
            skip 1
            return .document true
        | _ => return .document false
    | '&' :: _ =>
        skip 1
        return .copies true
    | '>' :: _ =>
        skip 1
        return .opens .updating
    | _ => return .opens .reading

/-- Reads the next token, or the one that was put back. -/
def readToken (commands : CommandReader) (fuel : Nat) : Reading Token := do
  let source ← get
  match source.pushed with
  | some token =>
      set { source with pushed := none }
      return token
  | none =>
      skipBlanks (source.text.length + 1)
      let doubled (sign : Char) (double single : Token) : Reading Token := do
        skip 1
        match ← look with
        | c :: _ =>
            if c = sign then
              skip 1
              return double
            else return single
        | [] => return single
      match ← look with
      | [] =>
          readAwaited commands fuel
          return .ending
      | '\n' :: _ =>
          skip 1
          readAwaited commands fuel
          return .newline
      | '&' :: _ => doubled '&' .whenOk .ampersand
      | '|' :: _ => doubled '|' .whenFailed .pipe
      | ';' :: _ => doubled ';' .doubleSemicolon .semicolon
      | '(' :: _ =>
          skip 1
          return .opening
      | ')' :: _ =>
          skip 1
          return .closing
      | '<' :: _ =>
          skip 1
          return .redirect none (← readRedirectSign false)
      | '>' :: _ =>
          skip 1
          return .redirect none (← readRedirectSign true)
      | c :: sign :: _ =>
          if c.isDigit && (sign = '<' || sign = '>') then
            skip 2
            return .redirect (some (c.toNat - '0'.toNat)) (← readRedirectSign (sign = '>'))
          else return .word (← readParts commands fuel .word)
      | _ => return .word (← readParts commands fuel .word)

/-- Reads the next token that is not the end of a line. -/
def readBeyondNewlines (commands : CommandReader) (words : Nat) : (fuel : Nat) → Reading Token
  | 0 => readToken commands words
  | fuel + 1 => do
      match ← readToken commands words with
      | .newline => readBeyondNewlines commands words fuel
      | token => return token

/-! ## Commands -/

/-- Where a list of commands stands: on a line of its own, where there has to be a command, or
where there may be none. -/
inductive ListPlace where
  | line
  | needed
  | optional
deriving DecidableEq, Repr

def assignment? : List Part → Option (String × List Part)
  | .text false chars :: rest =>
      (splitAssignment chars).map fun (name, value) =>
        (name, if value.isEmpty then rest else .text false value :: rest)
  | _ => none

/-- The text of a word without its quotes. -/
def unquoted (parts : List Part) : List Char :=
  parts.flatMap fun part =>
    match part with
    | .text _ chars => chars
    | _ => []

/-- The file that a sign redirects if it names none. -/
def RedirectSign.descriptor : RedirectSign → Nat
  | opens .reading => 0
  | opens .updating => 0
  | opens _ => 1
  | copies input => if input then 0 else 1
  | document _ => 0

/-- The redirection of a sign and the word behind it. -/
def readRedirect (descriptor : Option Nat) (sign : RedirectSign) (token : Token) :
    Reading Redirect := do
  let redirected := descriptor.getD sign.descriptor
  match token with
  | .word parts =>
      match sign with
      | .opens opening => return .file redirected opening parts
      | .copies _ => return .copy redirected parts
      | .document withoutTabs =>
          let source ← get
          let awaited : Awaited :=
            ⟨source.nextDocument, unquoted parts, parts.any Part.isQuotedText, withoutTabs⟩
          set { source with
            nextDocument := source.nextDocument + 1
            awaited := source.awaited ++ [awaited] }
          return .document redirected source.nextDocument
  | _ => unexpected token false none

/-- A pipeline, if there is more than one command. -/
def pipelineOf (first : Statement) (more : List Statement) : Statement :=
  if more.isEmpty then first else .pipeline (first :: more)

def sequenceOf : List Statement → Statement
  | [command] => command
  | commands => .sequence commands

mutual

/-- Reads the commands inside of a word. -/
def readInside : (fuel : Nat) → CommandReader
  | 0, _ => refuse "Script too long"
  | fuel + 1, closed => do
      let body ← readList fuel .optional
      if closed then
        match ← readToken (readInside fuel) fuel with
        | .closing => return body
        | token => unexpected token true (some "\")\"")
      else return body

/-- Reads a list of commands. What ends it is put back. -/
def readList : (fuel : Nat) → ListPlace → Reading (List Statement)
  | 0, _ => refuse "Script too long"
  | fuel + 1, place => do
      let token ←
        if place = .line then readToken (readInside fuel) fuel
        else readBeyondNewlines (readInside fuel) fuel fuel
      match place, token with
      | .line, .newline => return []
      | _, .ending =>
          push token
          return []
      | _, _ =>
          push token
          if place = .optional && token.endsList then return []
          let command ← readConditional fuel
          let after := if place = .line then .line else .optional
          match ← readToken (readInside fuel) fuel with
          | .ampersand => return .background command :: (← readList fuel after)
          | .semicolon => return command :: (← readList fuel after)
          | .newline =>
              push .newline
              return command :: (← readList fuel after)
          | .ending =>
              push .ending
              return command :: (← readList fuel after)
          | other =>
              if place = .line then unexpected other false none
              else
                push other
                return [command]

/-- Reads commands of which each one but the first depends on the one before. -/
def readConditional : (fuel : Nat) → Reading Statement
  | 0 => refuse "Script too long"
  | fuel + 1 => do
      let first ← readPipeline fuel false
      readConditions fuel first

def readConditions : (fuel : Nat) → Statement → Reading Statement
  | 0, _ => refuse "Script too long"
  | fuel + 1, first => do
      match ← readToken (readInside fuel) fuel with
      | .whenOk =>
          let second ← readPipeline fuel true
          readConditions fuel (.both first second)
      | .whenFailed =>
          let second ← readPipeline fuel true
          readConditions fuel (.either first second)
      | token =>
          push token
          return first

/-- Reads commands of which each one reads what the one before writes. -/
def readPipeline : (fuel : Nat) → (beyondNewlines : Bool) → Reading Statement
  | 0, _ => refuse "Script too long"
  | fuel + 1, beyondNewlines => do
      let token ←
        if beyondNewlines then readBeyondNewlines (readInside fuel) fuel fuel
        else readToken (readInside fuel) fuel
      let negated := token.isKeyword "!"
      if !negated then push token
      let first ← readCommand fuel false
      let command := pipelineOf first (← readPipes fuel)
      return if negated then .negated command else command

/-- Reads the commands behind the sign of a pipeline. -/
def readPipes : (fuel : Nat) → Reading (List Statement)
  | 0 => refuse "Script too long"
  | fuel + 1 => do
      match ← readToken (readInside fuel) fuel with
      | .pipe =>
          let command ← readCommand fuel true
          return command :: (← readPipes fuel)
      | token =>
          push token
          return []

def readExpected : (fuel : Nat) → (isIt : Token → Bool) → (name : String) → Reading Unit
  | 0, _, _ => refuse "Script too long"
  | fuel + 1, isIt, name => do
      let token ← readToken (readInside fuel) fuel
      if isIt token then return ()
      else unexpected token true (some ("\"" ++ name ++ "\""))

def readUntil : (fuel : Nat) → (keyword : String) → Reading Statement
  | 0, _ => refuse "Script too long"
  | fuel + 1, keyword => do
      let body ← readList fuel .needed
      readExpected fuel (·.isKeyword keyword) keyword
      return sequenceOf body

def readCommand : (fuel : Nat) → (beyondNewlines : Bool) → Reading Statement
  | 0, _ => refuse "Script too long"
  | fuel + 1, beyondNewlines => do
      let token ←
        if beyondNewlines then readBeyondNewlines (readInside fuel) fuel fuel
        else readToken (readInside fuel) fuel
      let line := (← get).line
      let redirected (command : Statement) : Reading Statement := do
        let redirects ← readRedirects fuel
        return if redirects.isEmpty then command else .redirected line command redirects
      match token, token.keyword? with
      | .opening, _ =>
          let body ← readList fuel .needed
          readExpected fuel (fun token => token matches .closing) ")"
          return .subshell line (sequenceOf body) (← readRedirects fuel)
      | _, some "\x7b" => redirected (← readUntil fuel "\x7d")
      | _, some "if" => redirected (← readChoice fuel)
      | _, some "while" => redirected (← readRepeated fuel false)
      | _, some "until" => redirected (← readRepeated fuel true)
      | _, some "for" => redirected (← readForEach fuel line)
      | _, some "case" => redirected (← readSelect fuel line)
      | .word _, none =>
          push token
          readSimple fuel line [] [] []
      | .redirect .., _ =>
          push token
          readSimple fuel line [] [] []
      | _, _ => unexpected token true none

def readChoice : (fuel : Nat) → Reading Statement
  | 0 => refuse "Script too long"
  | fuel + 1 => do
      let test ← readUntil fuel "then"
      let body ← readList fuel .needed
      let token ← readToken (readInside fuel) fuel
      match token.keyword? with
      | some "elif" => return .choice test (sequenceOf body) (← readChoice fuel)
      | some "else" => return .choice test (sequenceOf body) (← readUntil fuel "fi")
      | some "fi" => return .choice test (sequenceOf body) (.sequence [])
      | _ => unexpected token true (some "\"fi\"")

def readRepeated : (fuel : Nat) → (untilOk : Bool) → Reading Statement
  | 0, _ => refuse "Script too long"
  | fuel + 1, untilOk => do
      let test ← readUntil fuel "do"
      return .repeated untilOk test (← readUntil fuel "done")

/-- Reads a repetition for each of some words, behind its keyword. -/
def readForEach : (fuel : Nat) → (line : Nat) → Reading Statement
  | 0, _ => refuse "Script too long"
  | fuel + 1, line => do
      match ← readToken (readInside fuel) fuel with
      | .word parts =>
          match literal? parts with
          | some name =>
              if isName name then
                let token ← readBeyondNewlines (readInside fuel) fuel fuel
                let words ←
                  if token.isKeyword "in" then readWords fuel
                  else do
                    if !(token matches .semicolon) then push token
                    pure [[.parameter true "@" .plain []]]
                let next ← readBeyondNewlines (readInside fuel) fuel fuel
                if next.isKeyword "do" then
                  return .forEach line (String.ofList name) words (← readUntil fuel "done")
                else unexpected next true (some "\"do\"")
              else refuse "Bad for loop variable"
          | none => refuse "Bad for loop variable"
      | _ => refuse "Bad for loop variable"

def readWords : (fuel : Nat) → Reading (List (List Part))
  | 0 => refuse "Script too long"
  | fuel + 1 => do
      match ← readToken (readInside fuel) fuel with
      | .word parts => return parts :: (← readWords fuel)
      | .newline => return []
      | .semicolon => return []
      | token => unexpected token false none

def readSelect : (fuel : Nat) → (line : Nat) → Reading Statement
  | 0, _ => refuse "Script too long"
  | fuel + 1, line => do
      match ← readToken (readInside fuel) fuel with
      | .word subject =>
          let token ← readBeyondNewlines (readInside fuel) fuel fuel
          if token.isKeyword "in" then return .select line subject (← readCases fuel)
          else unexpected token true (some "\"in\"")
      | token => unexpected token false (some "word")

def readCases : (fuel : Nat) → Reading (List (List (List Part) × Statement))
  | 0 => refuse "Script too long"
  | fuel + 1 => do
      let token ← readBeyondNewlines (readInside fuel) fuel fuel
      if token.isKeyword "esac" then return []
      if !(token matches .opening) then push token
      let patterns ← readPatterns fuel
      let body ← readList fuel .optional
      let next ← readBeyondNewlines (readInside fuel) fuel fuel
      if next.isKeyword "esac" then return [(patterns, sequenceOf body)]
      else
        match next with
        | .doubleSemicolon => return (patterns, sequenceOf body) :: (← readCases fuel)
        | _ => unexpected next true (some "\";;\"")

/-- Reads the patterns of a case and the sign behind them. -/
def readPatterns : (fuel : Nat) → Reading (List (List Part))
  | 0 => refuse "Script too long"
  | fuel + 1 => do
      let token ← readToken (readInside fuel) fuel
      let pattern : List Part :=
        match token with
        | .word parts => parts
        | _ => []
      match ← readToken (readInside fuel) fuel with
      | .pipe => return pattern :: (← readPatterns fuel)
      | .closing => return [pattern]
      | next => unexpected next false (some "\")\"")

def readRedirects : (fuel : Nat) → Reading (List Redirect)
  | 0 => refuse "Script too long"
  | fuel + 1 => do
      match ← readToken (readInside fuel) fuel with
      | .redirect descriptor sign =>
          let redirect ← readRedirect descriptor sign (← readToken (readInside fuel) fuel)
          return redirect :: (← readRedirects fuel)
      | token =>
          push token
          return []

/-- Reads the rest of a simple command, or the definition of a function. -/
def readSimple : (fuel : Nat) → (line : Nat) → (assignments : List (String × List Part)) →
    (words : List (List Part)) → (redirects : List Redirect) → Reading Statement
  | 0, _, _, _, _ => refuse "Script too long"
  | fuel + 1, line, assignments, words, redirects => do
      match ← readToken (readInside fuel) fuel with
      | .word parts =>
          match words, assignment? parts with
          | [], some assigned =>
              readSimple fuel line (assignments ++ [assigned]) words redirects
          | _, _ => readSimple fuel line assignments (words ++ [parts]) redirects
      | .redirect descriptor sign =>
          let redirect ← readRedirect descriptor sign (← readToken (readInside fuel) fuel)
          readSimple fuel line assignments words (redirects ++ [redirect])
      | .opening =>
          match assignments, words, redirects with
          | [], [word], [] =>
              readExpected fuel (fun token => token matches .closing) ")"
              match literal? word with
              | some name =>
                  if isName name && !specialNames.contains (String.ofList name) then
                    return .define (String.ofList name) (← readCommand fuel true)
                  else refuse "Bad function name"
              | none => refuse "Bad function name"
          | _, _, _ =>
              push .opening
              return .simple line assignments words redirects
      | token =>
          push token
          return .simple line assignments words redirects

end

/-- The fuel that is enough to read a text. -/
def readingFuel (text : List Char) : Nat :=
  16 * text.length + 64

/-- Reads the commands of the next line. There are none at the end of the script. -/
def readLine? (source : Source) : Except ScriptFault (Option (List Statement) × Source) :=
  let fuel := readingFuel source.text
  let reading : Reading (Option (List Statement)) := do
    match ← readToken (readInside fuel) fuel with
    | .ending => return none
    | .newline => return some []
    | token =>
        push token
        return some (← readList fuel .line)
  reading.run { source with pushed := none }

end Bindery.Shell
