import Bindery.Number.Limit
import Bindery.Text.Blank
import Bindery.Text.WordChar

/-!
Contract: the handler that a tag for an event names, and whether its arguments can be read.

Owns:
- the form of a handler: a dotted name, with or without arguments in brackets; anything else has to
  be a value by itself;
- the grammar of values: numbers with one sign and sums of a real and an imaginary one, texts and
  bytes, three words, an ellipsis, tuples, sets and mappings, whose keys may not hold sets or
  mappings themselves.

No value is kept, since handlers do nothing here. Characters by their names are not known.
-/

namespace Bindery.Display.Handler

/-- What is known of a value: the kinds of number, which sums ask for, and whether it can be a
key. -/
inductive Shape where
  | real
  | imaginary
  | signed (isImaginary : Bool)
  | compound
  | other (isKey : Bool)
deriving DecidableEq, Repr

def Shape.isKey : Shape → Bool
  | other isKey => isKey
  | _ => true

/-- A shape and the text behind it. -/
abbrev Reading := Option (Shape × List Char)

/-! ## Blanks -/

/-- Drops blanks and comments; inside of brackets, line ends too. -/
def skipGap (inBrackets : Bool) : (inComment : Bool) → List Char → List Char
  | _, [] => []
  | true, c :: rest =>
      if c = '\n' then skipGap inBrackets false (c :: rest) else skipGap inBrackets true rest
  | false, c :: rest =>
      if c = ' ' || c = '\t' || c = '\x0c' || (inBrackets && c = '\n') then
        skipGap inBrackets false rest
      else if c = '#' then skipGap inBrackets true rest
      else c :: rest
termination_by inComment text => (text.length, if inComment then 1 else 0)

/-! ## Numbers -/

/-- A character that may not follow a number. -/
def isNameChar (c : Char) : Bool :=
  c.isAlphanum || c = '_' || 0x80 ≤ c.toNat

/-- The length of a run of digits in which single underscores may stand between digits. -/
def runLength (isDigit : Char → Bool) : List Char → Nat
  | c :: '_' :: d :: rest =>
      if isDigit c && isDigit d then 2 + runLength isDigit (d :: rest)
      else if isDigit c then 1
      else 0
  | c :: rest => if isDigit c then 1 + runLength isDigit rest else 0
  | [] => 0

/-- Ends a number, behind which no name may start. -/
def endNumber (shape : Shape) : List Char → Reading
  | [] => some (shape, [])
  | c :: rest => if isNameChar c then none else some (shape, c :: rest)

/-- Reads a number in another base behind its mark. -/
def readBased (isDigit : Char → Bool) (text : List Char) : Reading :=
  let body :=
    match text with
    | '_' :: rest => rest
    | _ => text
  let size := runLength isDigit body
  if size = 0 then none else endNumber .real (body.drop size)

def dropExponent (text : List Char) : Bool × List Char :=
  match text with
  | [] => (false, [])
  | c :: rest =>
      if c = 'e' || c = 'E' then
        let digits :=
          match rest with
          | '-' :: more => more
          | '+' :: more => more
          | _ => rest
        let size := runLength Char.isDigit digits
        if size = 0 then (false, text) else (true, digits.drop size)
      else (false, text)

/-- Reads a decimal number. A whole one may not begin with a zero, unless it is zero. -/
def readDecimal (text : List Char) : Reading :=
  let whole := runLength Char.isDigit text
  let afterWhole := text.drop whole
  let (hasPoint, afterPoint) : Bool × List Char :=
    match afterWhole with
    | '.' :: rest => (true, rest.drop (runLength Char.isDigit rest))
    | _ => (false, afterWhole)
  let (hasExponent, left) := dropExponent afterPoint
  match left with
  | 'j' :: rest => endNumber .imaginary rest
  | 'J' :: rest => endNumber .imaginary rest
  | _ =>
      let digits := (text.take whole).filter (· != '_')
      let isWhole := !hasPoint && !hasExponent
      if isWhole && (digits.head? = some '0' && digits.any (· != '0') ||
          Number.digitLimit < digits.length) then none
      else endNumber .real left

def isHex (c : Char) : Bool :=
  c.isDigit || ('a' ≤ c && c ≤ 'f') || ('A' ≤ c && c ≤ 'F')

def readNumber (text : List Char) : Reading :=
  match text with
  | '0' :: mark :: rest =>
      if mark = 'x' || mark = 'X' then readBased isHex rest
      else if mark = 'o' || mark = 'O' then readBased (fun c => '0' ≤ c && c ≤ '7') rest
      else if mark = 'b' || mark = 'B' then readBased (fun c => c = '0' || c = '1') rest
      else readDecimal text
  | _ => readDecimal text

/-! ## Texts -/

/-- Whether exactly so many digits of the base sixteen come first. -/
def hasHex (count : Nat) (text : List Char) : Bool :=
  (text.take count).length = count && (text.take count).all isHex

/-- Whether an escape is right, given what follows its backslash. -/
def isEscape (isBytes : Bool) (text : List Char) : Bool :=
  match text with
  | 'x' :: rest => hasHex 2 rest
  | 'u' :: rest => isBytes || hasHex 4 rest
  | 'U' :: rest =>
      isBytes ||
        (hasHex 8 rest && (['0', '0', '0'].isPrefixOf rest || "0010".toList.isPrefixOf rest))
  | 'N' :: _ => isBytes
  | _ => true

/-- What follows the end of a text, behind its opening marks. -/
def afterText (mark : Char) (isLong isRaw isBytes : Bool) : List Char → Option (List Char)
  | [] => none
  | '\\' :: c :: rest =>
      if (isRaw || isEscape isBytes (c :: rest)) && (!isBytes || c.toNat < 0x80) then
        afterText mark isLong isRaw isBytes rest
      else none
  | c :: rest =>
      if c = mark then
        if !isLong then some rest
        else
          match rest with
          | second :: third :: left =>
              if second = mark && third = mark then some left
              else afterText mark isLong isRaw isBytes rest
          | _ => none
      else if (c = '\n' && !isLong) || (isBytes && 0x80 ≤ c.toNat) || c = '\\' then none
      else afterText mark isLong isRaw isBytes rest

def readText (isRaw isBytes : Bool) (text : List Char) : Option (List Char) :=
  match text with
  | mark :: second :: third :: rest =>
      if second = mark && third = mark then afterText mark true isRaw isBytes rest
      else afterText mark false isRaw isBytes (second :: third :: rest)
  | mark :: rest => afterText mark false isRaw isBytes rest
  | [] => none

/-- Whether a text comes next: whether it is raw, whether it is bytes, and its prefix dropped. -/
def textAhead (text : List Char) : Option (Bool × Bool × List Char) :=
  let letters := text.takeWhile Char.isAlpha
  let rest := text.drop letters.length
  let isMarked := rest.head? = some '\'' || rest.head? = some '"'
  let name := letters.map Char.toLower
  if !isMarked then none
  else if name = [] || name = ['u'] then some (false, false, rest)
  else if name = ['r'] then some (true, false, rest)
  else if name = ['b'] then some (false, true, rest)
  else if name = ['b', 'r'] || name = ['r', 'b'] then some (true, true, rest)
  else none

/-- Reads texts that stand next to each other, which are one. -/
def readTexts (inBrackets : Bool) : (fuel : Nat) → (isBytes : Option Bool) → List Char → Reading
  | 0, _, _ => none
  | fuel + 1, before, text =>
      match textAhead (skipGap inBrackets false text) with
      | none => before.map fun _ => (.other true, text)
      | some (isRaw, isBytes, marked) =>
          if before.getD isBytes != isBytes then none
          else (readText isRaw isBytes marked).bind (readTexts inBrackets fuel (some isBytes))

/-! ## Values -/

/-- How deep brackets may stand inside each other. -/
def depthLimit : Nat := 200

def words : List String := ["True", "False", "None"]

mutual

def readAtom : (fuel depth : Nat) → List Char → Reading
  | 0, _, _ => none
  | fuel + 1, depth, text =>
      match text with
      | [] => none
      | '.' :: '.' :: '.' :: rest => some (.other true, rest)
      | '(' :: rest =>
          if depthLimit ≤ depth then none
          else
            match skipGap true false rest with
            | ')' :: left => some (.other true, left)
            | body =>
                match readSeries fuel (depth + 1) body with
                | some (shape, left) =>
                    match skipGap true false left with
                    | ')' :: left => some (shape, left)
                    | _ => none
                | none => none
      | '\x7b' :: rest =>
          if depthLimit ≤ depth then none
          else
            match skipGap true false rest with
            | '\x7d' :: left => some (.other false, left)
            | body => readMembers fuel (depth + 1) none body
      | c :: rest =>
          let isNumber := c.isDigit || (c = '.' && (rest.head?.map Char.isDigit).getD false)
          if isNumber then readNumber text
          else if (textAhead text).isSome then
            readTexts (depth != 0) (text.length + 1) none text
          else
            let name := String.ofList (text.takeWhile isNameChar)
            let left := text.dropWhile isNameChar
            if words.contains name then some (.other true, left)
            else if name = "set" then
              match skipGap (depth != 0) false left with
              | '(' :: inside =>
                  match skipGap true false inside with
                  | ')' :: left => some (.other false, left)
                  | _ => none
              | _ => none
            else none

def readSigned : (fuel depth : Nat) → List Char → Reading
  | 0, _, _ => none
  | fuel + 1, depth, text =>
      match text with
      | [] => none
      | c :: rest =>
          if c = '-' || c = '+' then
            match readAtom fuel depth (skipGap (depth != 0) false rest) with
            | some (.real, left) => some (.signed false, left)
            | some (.imaginary, left) => some (.signed true, left)
            | _ => none
          else readAtom fuel depth text

/-- Reads a value or the sum of two numbers. -/
def readSum : (fuel depth : Nat) → List Char → Reading
  | 0, _, _ => none
  | fuel + 1, depth, text =>
      match readSigned fuel depth text with
      | none => none
      | some (shape, left) =>
          match skipGap (depth != 0) false left with
          | c :: rest =>
              if c = '-' || c = '+' then
                if shape = .real || shape = .signed false then
                  match readAtom fuel depth (skipGap (depth != 0) false rest) with
                  | some (.imaginary, left) => some (.compound, left)
                  | _ => none
                else none
              else some (shape, c :: rest)
          | [] => some (shape, [])

/-- Reads a value, or values with commas between them, which are a tuple. -/
def readSeries : (fuel depth : Nat) → List Char → Reading
  | 0, _, _ => none
  | fuel + 1, depth, text =>
      match readSum fuel depth text with
      | none => none
      | some (shape, left) =>
          match skipGap (depth != 0) false left with
          | ',' :: rest =>
              match skipGap (depth != 0) false rest with
              | [] => some (.other shape.isKey, [])
              | c :: more =>
                  if c = ')' || c = '\n' then some (.other shape.isKey, c :: more)
                  else
                    (readSeries fuel depth (c :: more)).map fun (others, left) =>
                      (.other (shape.isKey && others.isKey), left)
          | left => some (shape, left)

/-- Reads the members of a set or of a mapping up to the closing bracket. -/
def readMembers : (fuel depth : Nat) → (isMapping : Option Bool) → List Char → Reading
  | 0, _, _, _ => none
  | fuel + 1, depth, kind, text =>
      match readSum fuel depth text with
      | none => none
      | some (key, left) =>
          if !key.isKey then none
          else
            let (isMapping, afterValue) : Bool × Option (List Char) :=
              match skipGap true false left with
              | ':' :: rest =>
                  (true, (readSum fuel depth (skipGap true false rest)).map (·.2))
              | left => (false, some left)
            if kind.getD isMapping != isMapping then none
            else
              match afterValue.map (skipGap true false) with
              | some ('\x7d' :: left) => some (.other false, left)
              | some (',' :: rest) =>
                  match skipGap true false rest with
                  | '\x7d' :: left => some (.other false, left)
                  | body => readMembers fuel depth (some isMapping) body
              | _ => none

end

def unifyLineEnds : List Char → List Char
  | '\r' :: '\n' :: rest => '\n' :: unifyLineEnds rest
  | '\r' :: rest => '\n' :: unifyLineEnds rest
  | c :: rest => c :: unifyLineEnds rest
  | [] => []

def isValue (text : List Char) : Bool :=
  let chars := unifyLineEnds (text.dropWhile fun c => c = ' ' || c = '\t')
  if chars.contains '\x00' then false
  else
    match readSeries (4 * chars.length + 8) 0 chars with
    | some (_, left) =>
        match skipGap false false left with
        | [] => true
        | '\n' :: rest => (skipGap true false rest).isEmpty
        | _ => false
    | none => false

/-- Whether the parameters of a tag for an event can be read. -/
def isRight (parameters : List Char) : Bool :=
  let text := Text.trim parameters
  let afterName := text.dropWhile fun c => c = '.' || Text.isWordChar c
  match afterName with
  | [] => true
  | '(' :: rest =>
      if rest.getLast? = some ')' && !rest.contains '\n' then isValue afterName else isValue text
  | _ => isValue text

end Bindery.Display.Handler
