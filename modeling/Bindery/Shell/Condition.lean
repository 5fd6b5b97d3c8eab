import Bindery.Shell.Formula

/-!
Contract: the conditions that a shell can test.

Owns:
- the signs: about one text, about two texts or numbers, and those that join conditions;
- `Session.holds`, whether the words of a condition hold. Words that are no condition are a fault.

A condition of three words whose middle one is a sign about two texts is about its first and last
word, whatever they are.
-/

namespace Bindery.Shell

inductive ConditionSign where
  | operand
  | ending
  | negation
  | joinsAll
  | joinsAny
  | opening
  | closing
  | unary (sign : String)
  | binary (sign : String)
deriving DecidableEq, Repr

def unarySigns : List String := [
  "-r", "-w", "-x", "-e", "-f", "-d", "-c", "-b", "-p", "-u", "-g", "-k", "-s", "-t", "-z", "-n",
  "-h", "-O", "-G", "-L", "-S"]

def binarySigns : List String := [
  "=", "!=", "<", ">", "-eq", "-ne", "-ge", "-gt", "-le", "-lt", "-nt", "-ot", "-ef"]

def signOf? (word : String) : Option ConditionSign :=
  if word = "!" then some .negation
  else if word = "-a" then some .joinsAll
  else if word = "-o" then some .joinsAny
  else if word = "(" then some .opening
  else if word = ")" then some .closing
  else if unarySigns.contains word then some (.unary word)
  else if binarySigns.contains word then some (.binary word)
  else none

/-- Whether a word is a sign about two texts. -/
def isBinarySign (word : String) : Bool :=
  binarySigns.contains word

/-- What the first of some words is. A sign about one text is a text itself when nothing is behind
it, or a sign about two texts. -/
def conditionSign : List String → ConditionSign
  | [] => .ending
  | word :: rest =>
      match signOf? word with
      | some (.unary sign) =>
          match rest with
          | [] => .operand
          | [_] => .unary sign
          | next :: _ => if isBinarySign next then .operand else .unary sign
      | some .opening => if rest.isEmpty then .operand else .opening
      | some sign => sign
      | none => .operand

/-- The number that decimal digits stand for, with a sign in front and blanks around them. -/
def decimal? (text : String) : Option Int :=
  let shown := text.toList.dropWhile isSpace
  let (negative, unsigned) : Bool × List Char :=
    match shown with
    | '-' :: rest => (true, rest)
    | '+' :: rest => (false, rest)
    | _ => (false, shown)
  let digits := unsigned.takeWhile Char.isDigit
  if digits.isEmpty || !(unsigned.drop digits.length).all isSpace then none
  else
    let value := Int.ofNat (numberOf 10 digits)
    some (if negative then -value else value)

def conditionNumber (text : String) : Except String Int :=
  match decimal? text with
  | some value => .ok value
  | none => .error ("Illegal number: " ++ text)

def Session.fileHolds (session : Session) (sign name : String) : Bool :=
  match name.isEmpty, session.files.status session.base (pathOf name) with
  | false, .ok node =>
      match sign, node with
      | "-f", .file _ => true
      | "-f", _ => false
      | "-d", .directory => true
      | "-d", _ => false
      | "-x", .file file => file.executable
      | "-s", .file file => !file.content.isEmpty
      | _, _ => ["-e", "-r", "-w", "-x", "-s", "-O", "-G"].contains sign
  | _, _ => false

def Session.unaryHolds (session : Session) (sign text : String) : Except String Bool :=
  match sign with
  | "-z" => .ok text.isEmpty
  | "-n" => .ok !text.isEmpty
  | "-t" => (conditionNumber text).map fun _ => false
  | _ => .ok (session.fileHolds sign text)

/-- The second at which a file was last changed. -/
def Session.changedAt? (session : Session) (name : String) : Option Int :=
  match session.files.modified session.base (pathOf name) with
  | .ok second => some second
  | .error _ => none

def Session.binaryHolds (session : Session) (sign left right : String) : Except String Bool :=
  let compared (holds : Int → Int → Bool) : Except String Bool := do
    let first ← conditionNumber left
    let second ← conditionNumber right
    return holds first second
  match sign with
  | "=" => .ok (left = right)
  | "!=" => .ok (left != right)
  | "<" => .ok (left < right)
  | ">" => .ok (right < left)
  | "-eq" => compared fun first second => first = second
  | "-ne" => compared fun first second => first != second
  | "-ge" => compared fun first second => second ≤ first
  | "-gt" => compared fun first second => second < first
  | "-le" => compared fun first second => first ≤ second
  | "-lt" => compared fun first second => first < second
  | "-nt" => .ok
      (match session.changedAt? left, session.changedAt? right with
      | some first, some second => second < first
      | some _, none => true
      | _, _ => false)
  | "-ot" => .ok
      (match session.changedAt? left, session.changedAt? right with
      | some first, some second => first < second
      | none, some _ => true
      | _, _ => false)
  | _ => .ok
      (match session.files.locate session.base (pathOf left),
          session.files.locate session.base (pathOf right) with
      | .ok first, .ok second => first = second && (session.files.find? first).isSome
      | _, _ => false)

mutual

/-- Whether one of the conditions in front of words holds, and the words from the last one that
was read on. -/
def anyHolds (session : Session) : (fuel : Nat) → ConditionSign → List String →
    Except String (Bool × List String)
  | 0, _, words => .ok (false, words)
  | fuel + 1, sign, words => do
      let (first, left) ← allHold session fuel sign words
      match conditionSign (left.drop 1) with
      | .joinsAny =>
          let (second, rest) ← anyHolds session fuel (conditionSign (left.drop 2)) (left.drop 2)
          return (first || second, rest)
      | _ => return (first, left)

def allHold (session : Session) : (fuel : Nat) → ConditionSign → List String →
    Except String (Bool × List String)
  | 0, _, words => .ok (false, words)
  | fuel + 1, sign, words => do
      let (first, left) ← negatedHolds session fuel sign words
      match conditionSign (left.drop 1) with
      | .joinsAll =>
          let (second, rest) ← allHold session fuel (conditionSign (left.drop 2)) (left.drop 2)
          return (first && second, rest)
      | _ => return (first, left)

def negatedHolds (session : Session) : (fuel : Nat) → ConditionSign → List String →
    Except String (Bool × List String)
  | 0, _, words => .ok (false, words)
  | fuel + 1, .negation, words => do
      let next := conditionSign (words.drop 1)
      let (holds, left) ←
        negatedHolds session fuel next (if next = .ending then words else words.drop 1)
      return (!holds, left)
  | fuel + 1, sign, words => singleHolds session fuel sign words

def singleHolds (session : Session) : (fuel : Nat) → ConditionSign → List String →
    Except String (Bool × List String)
  | 0, _, words => .ok (false, words)
  | _, .ending, words => .ok (false, words)
  | fuel + 1, .opening, words => do
      let inner := words.drop 1
      match conditionSign inner with
      | .closing => return (false, inner)
      | sign =>
          let (holds, left) ← anyHolds session fuel sign inner
          match conditionSign (left.drop 1) with
          | .closing => return (holds, left.drop 1)
          | _ => .error "closing paren expected"
  | _, .unary sign, words =>
      match words.drop 1 with
      | [] => .error (sign ++ ": argument expected")
      | text :: rest => do return (← session.unaryHolds sign text, text :: rest)
  | _, _, words =>
      match words with
      | left :: sign :: rest =>
          match conditionSign (sign :: rest) with
          | .binary sign =>
              match rest with
              | [] => .error (sign ++ ": argument expected")
              | right :: more => do
                  return (← session.binaryHolds sign left right, right :: more)
          | _ => .ok (!left.isEmpty, words)
      | [only] => .ok (!only.isEmpty, words)
      | [] => .ok (false, [])

end

def Session.holds (session : Session) : (fuel : Nat) → List String → Except String Bool
  | 0, _ => .ok false
  | fuel + 1, words =>
      let judged (sign : ConditionSign) (words : List String) : Except String Bool := do
        let (holds, left) ← anyHolds session (4 * words.length + 8) sign words
        match left with
        | word :: _ :: _ =>
            .error (if word.isEmpty then "unexpected operator" else word ++ ": unexpected operator")
        | _ => return holds
      let bracketed (words : List String) : Except String Bool :=
        match words with
        | "(" :: rest =>
            if rest.getLast? = some ")" then judged (conditionSign rest.dropLast) rest.dropLast
            else judged (conditionSign words) words
        | "!" :: rest => (session.holds fuel rest).map (!·)
        | _ => judged (conditionSign words) words
      match words with
      | [] => .ok false
      | [_, sign, _] => if isBinarySign sign then judged .operand words else bracketed words
      | [_, _, _, _] => bracketed words
      | _ => judged (conditionSign words) words

end Bindery.Shell
