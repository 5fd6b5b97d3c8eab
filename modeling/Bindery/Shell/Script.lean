/-!
Contract: what a shell script consists of.

Owns:
- `Part`, a piece of a word: text, the value of a parameter, the output of commands, or a formula;
- `Redirect`, what happens to an open file of a command;
- `Statement`, from a simple command to the definition of a function;
- the names that a script can give.

Text in all of these is in the form of `Bindery.Shell.octets`.
-/

namespace Bindery.Shell

/-- What is done with a parameter. The text behind the sign counts for a parameter without a
value, or also for one with an empty value. -/
inductive Action where
  | plain
  | length
  | orElse (forEmpty : Bool)
  | orAssign (forEmpty : Bool)
  | orComplain (forEmpty : Bool)
  | instead (forEmpty : Bool)
  | cutFront (longest : Bool)
  | cutBack (longest : Bool)
  | unknown
deriving DecidableEq, Repr

inductive Opening where
  | reading
  | writing
  | appending
  | updating
  | replacing
deriving DecidableEq, Repr

mutual

/-- A piece of a word. What stands between quotes is not cut into words. -/
inductive Part where
  | text (quoted : Bool) (chars : List Char)
  | parameter (quoted : Bool) (name : String) (action : Action) (word : List Part)
  | output (quoted : Bool) (body : List Statement)
  | formula (quoted : Bool) (text : List Part)

/-- What happens to an open file of a command. -/
inductive Redirect where
  | file (descriptor : Nat) (opening : Opening) (name : List Part)
  | copy (descriptor : Nat) (source : List Part)
  | document (descriptor index : Nat)

/-- A command, with the line on which it begins where its messages show one. -/
inductive Statement where
  | simple (line : Nat) (assignments : List (String × List Part)) (words : List (List Part))
      (redirects : List Redirect)
  | pipeline (commands : List Statement)
  | both (first second : Statement)
  | either (first second : Statement)
  | negated (command : Statement)
  | background (command : Statement)
  | sequence (commands : List Statement)
  | subshell (line : Nat) (body : Statement) (redirects : List Redirect)
  | redirected (line : Nat) (command : Statement) (redirects : List Redirect)
  | choice (test body otherwise : Statement)
  | repeated (untilOk : Bool) (test body : Statement)
  | forEach (line : Nat) (name : String) (words : List (List Part)) (body : Statement)
  | select (line : Nat) (subject : List Part) (cases : List (List (List Part) × Statement))
  | define (name : String) (body : Statement)

end

instance : Inhabited Part := ⟨.text false []⟩

instance : Inhabited Statement := ⟨.sequence []⟩

/-! ## Names -/

/-- The names of parameters that are a single sign. -/
def isSpecialName (c : Char) : Bool :=
  c.isDigit || c = '$' || c = '?' || c = '#' || c = '@' || c = '*' || c = '!' || c = '-'

def isNameStart (c : Char) : Bool :=
  c.isAlpha || c = '_'

def isNameChar (c : Char) : Bool :=
  c.isAlphanum || c = '_'

/-- Whether a text is a name that can be given a value. -/
def isName (text : List Char) : Bool :=
  match text with
  | c :: _ => isNameStart c && text.all isNameChar
  | [] => false

/-- The name in front of an equals sign, and what is behind the sign. -/
def splitAssignment (text : List Char) : Option (String × List Char) :=
  let name := text.takeWhile (· != '=')
  if isName name && name.length < text.length then
    some (String.ofList name, text.drop (name.length + 1))
  else none

/-- The text of a word in which nothing is quoted and nothing has to be found out. -/
def literal? : List Part → Option (List Char)
  | [.text false chars] => some chars
  | _ => none

/-- Whether a part of a word is quoted text. -/
def Part.isQuotedText : Part → Bool
  | .text quoted _ => quoted
  | _ => false

/-- The commands that a shell has built in and that its functions cannot replace. -/
def specialNames : List String := [
  ":", ".", "break", "continue", "eval", "exec", "exit", "export", "local", "readonly", "return",
  "set", "shift", "times", "trap", "unset"]

end Bindery.Shell
