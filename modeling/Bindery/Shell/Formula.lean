import Bindery.Shell.Printing
import Bindery.Shell.Session

/-!
Contract: formulas, the arithmetic of a shell on whole numbers of 64 bits.

Owns:
- the signs and their precedence;
- `Formula`, and its reading from a text;
- `Formula.evaluate`, its value, with the assignments inside of it. The side that a condition does
  not choose has no effect, and no fault but that it is none.
-/

namespace Bindery.Shell

/-- A formula. Where a text is none, what had to come there is noted: it is missed only when what is
in front of it has been computed. -/
inductive Formula where
  | number (value : Int)
  | name (name : String)
  | unary (sign : Char) (operand : Formula)
  | binary (sign : String) (left right : Formula)
  | both (left right : Formula)
  | either (left right : Formula)
  | choice (test yes no : Formula)
  | assign (name : String) (sign : String) (value : Formula)
  | missing (expected : String)
  | unfinished (read : Formula) (expected : String)
deriving Repr

inductive FormulaToken where
  | number (value : Int)
  | name (name : String)
  | sign (text : String)
deriving DecidableEq, Repr

def formulaSigns : List String := [
  "<<=", ">>=", "&&", "||", "==", "!=", "<=", ">=", "<<", ">>", "+=", "-=", "*=", "/=", "%=", "&=",
  "^=", "|=", "=", "<", ">", "+", "-", "*", "/", "%", "&", "^", "|", "!", "~", "(", ")", "?", ":"]

/-- The signs between two operands, with the rank by which they bind, the strongest first. -/
def binaryRanks : List (String × Nat) := [
  ("*", 0), ("/", 0), ("%", 0), ("+", 1), ("-", 1), ("<<", 2), (">>", 2), ("<", 3), ("<=", 3),
  (">", 3), (">=", 3), ("==", 4), ("!=", 4), ("&", 5), ("^", 6), ("|", 7)]

/-- The signs that give a name a value, with what is done with its old value. -/
def assignSigns : List (String × String) := [
  ("=", ""), ("+=", "+"), ("-=", "-"), ("*=", "*"), ("/=", "/"), ("%=", "%"), ("<<=", "<<"),
  (">>=", ">>"), ("&=", "&"), ("^=", "^"), ("|=", "|")]

/-- The nearest number that has 64 bits. -/
def clampWord (value : Int) : Int :=
  max leastWord (min greatestWord value)

/-- The number of 64 bits that differs by a multiple of their number. -/
def wrapWord (value : Int) : Int :=
  (value - leastWord) % wordModulus + leastWord

def formulaTokens : (fuel : Nat) → List Char → List FormulaToken
  | 0, _ => []
  | _, [] => []
  | fuel + 1, c :: rest =>
      if c = ' ' || c = '\t' || c = '\n' then formulaTokens fuel rest
      else if c.isDigit then
        let (value, _, left) := readWhole (c :: rest)
        .number (clampWord value) :: formulaTokens fuel left
      else if isNameStart c then
        .name (String.ofList ((c :: rest).takeWhile isNameChar)) ::
          formulaTokens fuel ((c :: rest).dropWhile isNameChar)
      else
        match formulaSigns.find? fun sign => sign.toList.isPrefixOf (c :: rest) with
        | some sign => .sign sign :: formulaTokens fuel ((c :: rest).drop sign.length)
        | none => [.sign (String.ofList [c])]

/-- What has been read of a formula, and the pieces that are left. -/
abbrev FormulaReading := Formula × List FormulaToken

mutual

def readOperand : (fuel : Nat) → List FormulaToken → FormulaReading
  | 0, tokens => (.missing "primary", tokens)
  | fuel + 1, tokens =>
      match tokens with
      | .number value :: rest => (.number value, rest)
      | .name name :: rest => (.name name, rest)
      | .sign "(" :: rest =>
          let (inner, left) := readFormula fuel rest
          match left with
          | .sign ")" :: more => (inner, more)
          | _ => (.unfinished inner "')'", left)
      | .sign "+" :: rest => readOperand fuel rest
      | .sign "-" :: rest =>
          let (operand, left) := readOperand fuel rest
          (.unary '-' operand, left)
      | .sign "!" :: rest =>
          let (operand, left) := readOperand fuel rest
          (.unary '!' operand, left)
      | .sign "~" :: rest =>
          let (operand, left) := readOperand fuel rest
          (.unary '~' operand, left)
      | _ => (.missing "primary", tokens)

/-- Reads the operands behind the first one that bind at least as strongly as a rank. -/
def readBinaryFrom : (fuel : Nat) → (rank : Nat) → Formula → List FormulaToken → FormulaReading
  | 0, _, left, tokens => (.unfinished left "primary", tokens)
  | fuel + 1, rank, left, tokens =>
      match tokens with
      | .sign sign :: rest =>
          match binaryRanks.lookup sign with
          | some own =>
              if own ≤ rank then
                let (operand, more) := readOperand fuel rest
                let (right, after) :=
                  if own = 0 then (operand, more) else readBinaryFrom fuel (own - 1) operand more
                readBinaryFrom fuel rank (.binary sign left right) after
              else (left, tokens)
          | none => (left, tokens)
      | _ => (left, tokens)

/-- Reads operands of which each one has to hold. -/
def readBoth : (fuel : Nat) → List FormulaToken → FormulaReading
  | 0, tokens => (.missing "primary", tokens)
  | fuel + 1, tokens =>
      let (first, more) := readOperand fuel tokens
      let (left, rest) := readBinaryFrom fuel 7 first more
      match rest with
      | .sign "&&" :: after =>
          let (right, last) := readBoth fuel after
          (.both left right, last)
      | _ => (left, rest)

def readEither : (fuel : Nat) → List FormulaToken → FormulaReading
  | 0, tokens => (.missing "primary", tokens)
  | fuel + 1, tokens =>
      let (left, rest) := readBoth fuel tokens
      match rest with
      | .sign "||" :: after =>
          let (right, last) := readEither fuel after
          (.either left right, last)
      | _ => (left, rest)

def readChosen : (fuel : Nat) → List FormulaToken → FormulaReading
  | 0, tokens => (.missing "primary", tokens)
  | fuel + 1, tokens =>
      let (test, rest) := readEither fuel tokens
      match rest with
      | .sign "?" :: after =>
          let (yes, between) := readFormula fuel after
          match between with
          | .sign ":" :: more =>
              let (no, last) := readChosen fuel more
              (.choice test yes no, last)
          | _ => (.choice test (.unfinished yes "':'") (.number 0), between)
      | _ => (test, rest)

def readFormula : (fuel : Nat) → List FormulaToken → FormulaReading
  | 0, tokens => (.missing "primary", tokens)
  | fuel + 1, tokens =>
      match tokens with
      | .name name :: .sign sign :: rest =>
          match assignSigns.lookup sign with
          | some operation =>
              let (value, left) := readFormula fuel rest
              (.assign name operation value, left)
          | none => readChosen fuel tokens
      | _ => readChosen fuel tokens

end

def Formula.read (text : List Char) : Formula :=
  let tokens := formulaTokens (text.length + 1) text
  let (result, left) := readFormula (8 * tokens.length + 8) tokens
  if left.isEmpty then result else .unfinished result "EOF"

inductive FormulaFault where
  | unreadable (expected : String)
  | divisionByZero
  | notNumber (value : String)
  | fixed
deriving DecidableEq, Repr

def truth (value : Bool) : Int :=
  if value then 1 else 0

/-- The bits of a number without a sign. -/
def bits (value : Int) : Nat :=
  (value % wordModulus).toNat

def combine (sign : String) (left right : Int) : Except FormulaFault Int :=
  let shift := bits right % 64
  match sign with
  | "*" => .ok (wrapWord (left * right))
  | "/" => if right = 0 then .error .divisionByZero else .ok (wrapWord (Int.tdiv left right))
  | "%" => if right = 0 then .error .divisionByZero else .ok (Int.tmod left right)
  | "+" => .ok (wrapWord (left + right))
  | "-" => .ok (wrapWord (left - right))
  | "<<" => .ok (wrapWord (left * Int.ofNat (Nat.pow 2 shift)))
  | ">>" => .ok (Int.fdiv left (Int.ofNat (Nat.pow 2 shift)))
  | "<" => .ok (truth (left < right))
  | "<=" => .ok (truth (left ≤ right))
  | ">" => .ok (truth (right < left))
  | ">=" => .ok (truth (right ≤ left))
  | "==" => .ok (truth (left = right))
  | "!=" => .ok (truth (left ≠ right))
  | "&" => .ok (wrapWord (Int.ofNat (Nat.land (bits left) (bits right))))
  | "|" => .ok (wrapWord (Int.ofNat (Nat.lor (bits left) (bits right))))
  | _ => .ok (wrapWord (Int.ofNat (Nat.xor (bits left) (bits right))))

/-- The number that a value stands for. White space may surround it. -/
def wordOf (value : String) : Except FormulaFault Int :=
  let (number, _, rest) := readWhole value.toList
  if rest.all isSpace then .ok (clampWord number) else .error (.notNumber value)

namespace Formula

abbrev Computing := StateT Session (Except FormulaFault)

def ofName (name : String) : Computing Int := do
  wordOf (((← get).value? name).getD "")

def setName (name : String) (value : Int) : Computing Int := do
  let session ← get
  if (session.binding? name).any Binding.fixed then throw .fixed
  set (session.assign name (toString value))
  return value

/-- What is first missed in a formula that is not computed. -/
def firstMissing? : Formula → Option String
  | number _ => none
  | name _ => none
  | unary _ operand => operand.firstMissing?
  | binary _ left right => left.firstMissing?.or right.firstMissing?
  | both left right => left.firstMissing?.or right.firstMissing?
  | either left right => left.firstMissing?.or right.firstMissing?
  | choice test yes no => (test.firstMissing?.or yes.firstMissing?).or no.firstMissing?
  | assign _ _ value => value.firstMissing?
  | missing expected => some expected
  | unfinished read expected => read.firstMissing?.or (some expected)

/-- Goes past a formula that is not computed. -/
def pass (formula : Formula) : Computing Unit :=
  match formula.firstMissing? with
  | some expected => throw (.unreadable expected)
  | none => return ()

def evaluate : Formula → Computing Int
  | number value => return value
  | name key => ofName key
  | unary sign operand => do
      let value ← operand.evaluate
      if sign = '-' then return wrapWord (-value)
      else if sign = '!' then return truth (value = 0)
      else return wrapWord (-value - 1)
  | binary sign left right => do
      let first ← left.evaluate
      let second ← right.evaluate
      combine sign first second
  | both left right => do
      if (← left.evaluate) = 0 then
        right.pass
        return 0
      return truth ((← right.evaluate) ≠ 0)
  | either left right => do
      if (← left.evaluate) ≠ 0 then
        right.pass
        return 1
      return truth ((← right.evaluate) ≠ 0)
  | choice test yes no => do
      if (← test.evaluate) ≠ 0 then
        let value ← yes.evaluate
        no.pass
        return value
      yes.pass
      no.evaluate
  | assign key sign value => do
      let result ← value.evaluate
      if sign = "" then setName key result
      else setName key (← combine sign (← ofName key) result)
  | missing expected => throw (.unreadable expected)
  | unfinished read expected => do
      let _ ← read.evaluate
      throw (.unreadable expected)

end Formula

/-- What a shell says about a formula without a value. -/
def FormulaFault.text (source : String) : FormulaFault → String
  | unreadable expected =>
      "arithmetic expression: expecting " ++ expected ++ ": \"" ++ source ++ "\""
  | divisionByZero => "arithmetic expression: division by zero: \"" ++ source ++ "\""
  | notNumber value => "Illegal number: " ++ value
  | fixed => "is read only"

/-- The value of the text of a formula, and the session with its assignments. -/
def Session.compute (session : Session) (source : String) :
    Except FormulaFault (Int × Session) :=
  (Formula.read source.toList).evaluate.run session

end Bindery.Shell
