import Bindery.Value.JsonReader

/-!
Contract: the scalars of configuration files.

Owns:
- texts in four notations: basic and literal, each on one line or over several;
- numbers: decimal with underscores between digits, hexadecimal, octal and binary, with a point or
  an exponent, and the two words for what is not finite;
- dates, times of day and both together, which are checked and kept as written.

Line ends are single line feeds here. Each reader answers the value and what follows it.
-/

namespace Bindery.Toml

abbrev Reading (α : Type) := Option (α × List Char)

def isSpace (c : Char) : Bool :=
  c = ' ' || c = '\t'

def skipSpaces (text : List Char) : List Char :=
  text.dropWhile isSpace

/-- A control character other than the tab. -/
def isControl (c : Char) : Bool :=
  (c.toNat < 0x20 && c != '\t') || c.toNat == 0x7f

/-- Whether a text may hold the character as it is. -/
def isAllowed (multiline : Bool) (c : Char) : Bool :=
  !isControl c || (multiline && c = '\n')

/-! ## Texts -/

def shortEscaped (c : Char) : Option Char :=
  if c = '"' || c = '\\' then some c
  else if c = 'b' then some '\x08'
  else if c = 't' then some '\t'
  else if c = 'n' then some '\n'
  else if c = 'f' then some '\x0c'
  else if c = 'r' then some '\r'
  else none

/-- The character with a code of exactly `count` hexadecimal digits, unless it is half of a
surrogate pair. -/
def readHexChar (count : Nat) (text : List Char) : Reading Char :=
  let digits := text.take count
  if digits.length = count then
    match Json.hexNumber digits with
    | some code =>
        if (0xd800 ≤ code && code ≤ 0xdfff) || 0x10ffff < code then none
        else some (Char.ofNat code, text.drop count)
    | none => none
  else none

/-- What follows a backslash that ends a line: blanks, a line end, and all blanks and line ends
after it. -/
def afterLineEscape (text : List Char) : Option (List Char) :=
  match skipSpaces text with
  | '\n' :: rest => some (rest.dropWhile fun c => isSpace c || c = '\n')
  | _ => none

def readBasicFrom (multiline : Bool) : (fuel : Nat) → List Char → Reading (List Char)
  | 0, _ => none
  | fuel + 1, text =>
      match text with
      | [] => none
      | '"' :: rest =>
          if multiline then
            match rest with
            | '"' :: '"' :: left => some ([], left)
            | _ => (readBasicFrom multiline fuel rest).map fun (more, left) => ('"' :: more, left)
          else some ([], rest)
      | '\\' :: c :: rest =>
          if c = 'u' || c = 'U' then
            match readHexChar (if c = 'u' then 4 else 8) rest with
            | none => none
            | some (value, after) =>
                (readBasicFrom multiline fuel after).map fun (more, left) => (value :: more, left)
          else if multiline && (isSpace c || c = '\n') then
            match afterLineEscape (c :: rest) with
            | none => none
            | some after => readBasicFrom multiline fuel after
          else
            match shortEscaped c with
            | none => none
            | some value =>
                (readBasicFrom multiline fuel rest).map fun (more, left) => (value :: more, left)
      | c :: rest =>
          if c != '\\' && isAllowed multiline c then
            (readBasicFrom multiline fuel rest).map fun (more, left) => (c :: more, left)
          else none

def readBasic (multiline : Bool) (text : List Char) : Reading (List Char) :=
  readBasicFrom multiline (text.length + 1) text

/-- Reads a literal text on one line behind its opening mark. -/
def readLiteral : List Char → Reading (List Char)
  | [] => none
  | '\'' :: rest => some ([], rest)
  | c :: rest =>
      if isAllowed false c then (readLiteral rest).map fun (more, left) => (c :: more, left)
      else none

/-- Reads a literal text over several lines behind its opening marks. -/
def readLongLiteral : List Char → Reading (List Char)
  | [] => none
  | '\'' :: '\'' :: '\'' :: rest => some ([], rest)
  | c :: rest =>
      if isAllowed true c then (readLongLiteral rest).map fun (more, left) => (c :: more, left)
      else none

/-- Up to two marks before the closing ones belong to the text. -/
def takeExtraMarks (mark : Char) (reading : List Char × List Char) : List Char × List Char :=
  match reading.2 with
  | first :: second :: rest =>
      if first = mark then
        if second = mark then (reading.1 ++ [mark, mark], rest)
        else (reading.1 ++ [mark], second :: rest)
      else reading
  | [only] => if only = mark then (reading.1 ++ [mark], []) else reading
  | [] => reading

def dropLineEnd : List Char → List Char
  | '\n' :: rest => rest
  | text => text

def readText (text : List Char) : Reading String :=
  let reading :=
    match text with
    | '"' :: '"' :: '"' :: rest =>
        (readBasic true (dropLineEnd rest)).map (takeExtraMarks '"')
    | '"' :: rest => readBasic false rest
    | '\'' :: '\'' :: '\'' :: rest =>
        (readLongLiteral (dropLineEnd rest)).map (takeExtraMarks '\'')
    | '\'' :: rest => readLiteral rest
    | _ => none
  reading.map fun (value, left) => (String.ofList value, left)

/-! ## Numbers -/

/-- The digits of a run in which single underscores may stand between digits. -/
def digitRun (isDigit : Char → Bool) : List Char → List Char × List Char
  | c :: '_' :: d :: rest =>
      if isDigit c && isDigit d then
        let (digits, left) := digitRun isDigit (d :: rest)
        (c :: digits, left)
      else if isDigit c then ([c], '_' :: d :: rest)
      else ([], c :: '_' :: d :: rest)
  | c :: rest =>
      if isDigit c then
        let (digits, left) := digitRun isDigit rest
        (c :: digits, left)
      else ([], c :: rest)
  | [] => ([], [])

def digitsValue (base : Nat) (digits : List Char) : Nat :=
  digits.foldl (fun total c => total * base + (Json.hexValue c).getD 0) 0

def readBased (text : List Char) : Reading Value :=
  match text with
  | '0' :: mark :: rest =>
      let shape : Option (Nat × (Char → Bool)) :=
        if mark = 'x' then some (16, fun c => (Json.hexValue c).isSome)
        else if mark = 'o' then some (8, fun c => '0' ≤ c && c ≤ '7')
        else if mark = 'b' then some (2, fun c => c = '0' || c = '1')
        else none
      match shape with
      | none => none
      | some (base, isDigit) =>
          let (digits, left) := digitRun isDigit rest
          if digits.isEmpty then none else some (.int (digitsValue base digits), left)
  | _ => none

def cutSign : List Char → Bool × List Char
  | '-' :: rest => (true, rest)
  | '+' :: rest => (false, rest)
  | text => (false, text)

/-- The fraction of a number: its digits and what follows. -/
def cutFraction (text : List Char) : Option (List Char) × List Char :=
  match text with
  | '.' :: rest =>
      let (digits, left) := digitRun Char.isDigit rest
      if digits.isEmpty then (none, text) else (some digits, left)
  | _ => (none, text)

def cutExponent (text : List Char) : Option Int × List Char :=
  match text with
  | [] => (none, [])
  | c :: rest =>
      if c = 'e' || c = 'E' then
        let (negative, body) := cutSign rest
        let (digits, left) := digitRun Char.isDigit body
        if digits.isEmpty then (none, text)
        else
          let size : Int := digitsValue 10 digits
          (some (if negative then -size else size), left)
      else (none, text)

def readDecimal (text : List Char) : Reading Value :=
  let (negative, body) := cutSign text
  let (whole, afterWhole) :=
    match body with
    | '0' :: rest => (['0'], rest)
    | _ => digitRun Char.isDigit body
  if whole.isEmpty then none
  else
    let (fraction, afterFraction) := cutFraction afterWhole
    let (exponent, left) := cutExponent afterFraction
    match fraction, exponent with
    | none, none =>
        let size : Int := digitsValue 10 whole
        some (.int (if negative then -size else size), left)
    | _, _ =>
        let digits := fraction.getD []
        let scale : Int := exponent.getD 0 - digits.length
        some (.float (.ofDecimal negative (digitsValue 10 (whole ++ digits)) scale), left)

def specialNumbers : List (String × Number.Binary64) := [
  ("inf", .infinite false), ("nan", .undefined), ("+inf", .infinite false),
  ("-inf", .infinite true), ("+nan", .undefined), ("-nan", .undefined)]

def readSpecial (text : List Char) : Reading Value :=
  specialNumbers.findSome? fun (word, value) =>
    if word.toList.isPrefixOf text then some (.float value, text.drop word.toList.length) else none

/-! ## Dates and times -/

/-- Reads exactly `count` digits as a number between two bounds. -/
def readField (count low high : Nat) (text : List Char) : Reading Nat :=
  let digits := text.take count
  let value := Json.decimalValue digits
  if digits.length = count && digits.all Char.isDigit && low ≤ value && value ≤ high then
    some (value, text.drop count)
  else none

def expect (c : Char) : List Char → Option (List Char)
  | [] => none
  | first :: rest => if first = c then some rest else none

/-- What follows a time of day. -/
def afterTime (text : List Char) : Option (List Char) := do
  let (_, text) ← readField 2 0 23 text
  let (_, text) ← readField 2 0 59 (← expect ':' text)
  let (_, text) ← readField 2 0 59 (← expect ':' text)
  match text with
  | '.' :: c :: rest =>
      if c.isDigit then return rest.dropWhile Char.isDigit else return text
  | _ => return text

/-- What follows an optional distance from universal time. -/
def afterOffset (text : List Char) : List Char :=
  match text with
  | [] => []
  | c :: rest =>
      if c = 'Z' || c = 'z' then rest
      else if c = '+' || c = '-' then
        let left : Option (List Char) := do
          let (_, text) ← readField 2 0 23 rest
          let (_, text) ← readField 2 0 59 (← expect ':' text)
          return text
        left.getD text
      else text

def daysIn (year month : Nat) : Nat :=
  if month = 2 then
    if year % 4 = 0 && (year % 100 != 0 || year % 400 = 0) then 29 else 28
  else if month = 4 || month = 6 || month = 9 || month = 11 then 30
  else 31

/-- A date: the year, the month, the day and what follows. -/
def readDate (text : List Char) : Option ((Nat × Nat × Nat) × List Char) := do
  let (year, text) ← readField 4 0 9999 text
  let (month, text) ← readField 2 1 12 (← expect '-' text)
  let (day, text) ← readField 2 1 31 (← expect '-' text)
  return ((year, month, day), text)

/-- Reads a date, with a time of day behind it or not. The outer answer tells whether it has the
form of a date, the inner one whether there is such a day. -/
def readMoment (text : List Char) : Option (Reading Value) :=
  match readDate text with
  | none =>
      (afterTime text).map fun left =>
        some (.date (String.ofList (text.take (text.length - left.length))), left)
  | some ((year, month, day), afterDay) =>
      let left :=
        match afterDay with
        | c :: rest =>
            if c = 'T' || c = 't' || c = ' ' then
              match afterTime rest with
              | some more => afterOffset more
              | none => afterDay
            else afterDay
        | [] => []
      if year != 0 && day ≤ daysIn year month then
        some (some (.date (String.ofList (text.take (text.length - left.length))), left))
      else some none

end Bindery.Toml
