import Bindery.Number.Limit
import Bindery.Value.Basic

/-!
Contract: reading JSON text.

Owns:
- the grammar: values with blanks around them, texts without raw control characters, and numbers. A
  whole number is exact; one with a point or an exponent is the nearest double. A key that comes
  again keeps its first place and takes the last value. Two escaped halves of a surrogate pair are
  one character; a half that stands alone is replaced;
- `Dialect`, what a reader adds to the grammar and what it refuses: the one for settings knows three
  words for numbers that are not finite, and takes no whole number with too many digits.
-/

namespace Bindery.Json

/-- What a reader takes beside the standard grammar, and how much of it. -/
structure Dialect where
  /-- The most digits of a whole number, if their number is bounded. -/
  digitLimit : Option Nat
  /-- Whether there are words for numbers that are not finite. -/
  nonFinite : Bool
deriving DecidableEq, Repr

/-- The grammar as it is standardised, with whole numbers of any size. -/
def Dialect.standard : Dialect := ⟨none, false⟩

/-- What the values of settings are written in. -/
def Dialect.settings : Dialect := ⟨some Number.digitLimit, true⟩

/-- Whether a whole number may have so many digits. -/
def Dialect.admits (dialect : Dialect) (digits : Nat) : Bool :=
  match dialect.digitLimit with
  | none => true
  | some limit => digits ≤ limit

def isGap (c : Char) : Bool :=
  c = ' ' || c = '\n' || c = '\r' || c = '\t'

def skipGap (text : List Char) : List Char :=
  text.dropWhile isGap

def hexValue (c : Char) : Option Nat :=
  if '0' ≤ c ∧ c ≤ '9' then some (c.toNat - '0'.toNat)
  else if 'a' ≤ c ∧ c ≤ 'f' then some (c.toNat - 'a'.toNat + 10)
  else if 'A' ≤ c ∧ c ≤ 'F' then some (c.toNat - 'A'.toNat + 10)
  else none

def hexNumber (digits : List Char) : Option Nat :=
  digits.foldlM (fun total c => (hexValue c).map (total * 16 + ·)) 0

/-- What an escape or a plain character contributes to a text. -/
inductive StringUnit where
  | char (c : Char)
  | half (code : Nat)
deriving DecidableEq, Repr

/-- The unit of a code of four hexadecimal digits. -/
def StringUnit.ofCode (code : Nat) : StringUnit :=
  if 0xd800 ≤ code && code ≤ 0xdfff then .half code else .char (Char.ofNat code)

/-- Joins the halves of surrogate pairs, `pending` being a first half before the text. -/
def joinFrom : (pending : Option Nat) → List StringUnit → List Char
  | none, [] => []
  | some _, [] => ['\ufffd']
  | none, .char c :: rest => c :: joinFrom none rest
  | some _, .char c :: rest => '\ufffd' :: c :: joinFrom none rest
  | none, .half code :: rest =>
      if code < 0xdc00 then joinFrom (some code) rest else '\ufffd' :: joinFrom none rest
  | some high, .half code :: rest =>
      if code < 0xdc00 then '\ufffd' :: joinFrom (some code) rest
      else Char.ofNat (0x10000 + (high - 0xd800) * 0x400 + (code - 0xdc00)) :: joinFrom none rest

/-- Joins the halves of surrogate pairs. -/
def joinHalves (units : List StringUnit) : List Char :=
  joinFrom none units

def shortEscaped (c : Char) : Option Char :=
  if c = '"' || c = '\\' || c = '/' then some c
  else if c = 'b' then some '\x08'
  else if c = 'f' then some '\x0c'
  else if c = 'n' then some '\n'
  else if c = 'r' then some '\r'
  else if c = 't' then some '\t'
  else none

/-- Reads a text behind its opening mark; answers what follows the closing one. -/
def readUnits : List Char → Option (List StringUnit × List Char)
  | [] => none
  | '"' :: rest => some ([], rest)
  | '\\' :: 'u' :: a :: b :: c :: d :: rest =>
      match hexNumber [a, b, c, d], readUnits rest with
      | some code, some (units, left) => some (.ofCode code :: units, left)
      | _, _ => none
  | '\\' :: name :: rest =>
      match shortEscaped name, readUnits rest with
      | some c, some (units, left) => some (.char c :: units, left)
      | _, _ => none
  | c :: rest =>
      if c.toNat < 0x20 || c = '\\' then none
      else (readUnits rest).map fun (units, left) => (.char c :: units, left)

def readString (text : List Char) : Option (String × List Char) :=
  (readUnits text).map fun (units, left) => (String.ofList (joinHalves units), left)

def decimalValue (digits : List Char) : Nat :=
  digits.foldl (fun total c => total * 10 + (c.toNat - '0'.toNat)) 0

/-- Splits off an optional fraction: its digits and what follows. -/
def readFraction (text : List Char) : Option (List Char) × List Char :=
  match text with
  | '.' :: rest =>
      let digits := rest.takeWhile Char.isDigit
      if digits.isEmpty then (none, text) else (some digits, rest.dropWhile Char.isDigit)
  | _ => (none, text)

/-- Splits off an optional exponent: its value and what follows. -/
def readExponent (text : List Char) : Option Int × List Char :=
  match text with
  | c :: rest =>
      if c = 'e' || c = 'E' then
        let (negative, digitsText) :=
          match rest with
          | '-' :: more => (true, more)
          | '+' :: more => (false, more)
          | _ => (false, rest)
        let digits := digitsText.takeWhile Char.isDigit
        if digits.isEmpty then (none, text)
        else
          let size : Int := decimalValue digits
          (some (if negative then -size else size), digitsText.dropWhile Char.isDigit)
      else (none, text)
  | [] => (none, [])

/-- Reads a number behind its sign. -/
def readUnsigned (dialect : Dialect) (negative : Bool) (text : List Char) :
    Option (Value × List Char) :=
  let run := text.takeWhile Char.isDigit
  let whole := if run.head? = some '0' then run.take 1 else run
  if whole.isEmpty then none
  else
    let (fraction, afterFraction) := readFraction (text.drop whole.length)
    let (exponent, left) := readExponent afterFraction
    match fraction, exponent with
    | none, none =>
        let size : Int := decimalValue whole
        if dialect.admits whole.length then some (.int (if negative then -size else size), left)
        else none
    | _, _ =>
        let digits := fraction.getD []
        let scale : Int := exponent.getD 0 - digits.length
        some (.float (.ofDecimal negative (decimalValue (whole ++ digits)) scale), left)

def readNumber (dialect : Dialect) (text : List Char) : Option (Value × List Char) :=
  match text with
  | '-' :: rest => readUnsigned dialect true rest
  | _ => readUnsigned dialect false text

def standardWords : List (String × Value) :=
  [("null", .null), ("true", .bool true), ("false", .bool false)]

def nonFiniteWords : List (String × Value) := [
  ("NaN", .float .undefined), ("Infinity", .float (.infinite false)),
  ("-Infinity", .float (.infinite true))]

def Dialect.words (dialect : Dialect) : List (String × Value) :=
  if dialect.nonFinite then standardWords ++ nonFiniteWords else standardWords

def readWord (dialect : Dialect) (text : List Char) : Option (Value × List Char) :=
  dialect.words.findSome? fun (word, value) =>
    if word.toList.isPrefixOf text then some (value, text.drop word.toList.length) else none

mutual

/-- Reads a value; `fuel` bounds the number of nested values and of steps along lists. -/
def readValue (dialect : Dialect) : (fuel : Nat) → List Char → Option (Value × List Char)
  | 0, _ => none
  | fuel + 1, text =>
      match text with
      | '"' :: rest => (readString rest).map fun (value, left) => (.str value, left)
      | '[' :: rest =>
          match skipGap rest with
          | ']' :: left => some (.list [], left)
          | body => (readItems dialect fuel body).map fun (items, left) => (.list items, left)
      | '\x7b' :: rest =>
          match skipGap rest with
          | '\x7d' :: left => some (.map [], left)
          | body =>
              (readMembers dialect fuel body).map fun (pairs, left) =>
                (.map (Entries.ofPairs pairs), left)
      | _ => (readWord dialect text).orElse fun _ => readNumber dialect text

/-- Reads the items of a list up to its closing bracket. -/
def readItems (dialect : Dialect) : (fuel : Nat) → List Char → Option (List Value × List Char)
  | 0, _ => none
  | fuel + 1, text =>
      match readValue dialect fuel text with
      | none => none
      | some (item, rest) =>
          match skipGap rest with
          | ']' :: left => some ([item], left)
          | ',' :: more =>
              (readItems dialect fuel (skipGap more)).map fun (items, left) => (item :: items, left)
          | _ => none

/-- Reads the members of a mapping up to its closing brace. -/
def readMembers (dialect : Dialect) :
    (fuel : Nat) → List Char → Option (List (String × Value) × List Char)
  | 0, _ => none
  | fuel + 1, text =>
      match text with
      | '"' :: inside =>
          match readString inside with
          | none => none
          | some (key, afterKey) =>
              match skipGap afterKey with
              | ':' :: valueText =>
                  match readValue dialect fuel (skipGap valueText) with
                  | none => none
                  | some (value, rest) =>
                      match skipGap rest with
                      | '\x7d' :: left => some ([(key, value)], left)
                      | ',' :: more =>
                          (readMembers dialect fuel (skipGap more)).map fun (pairs, left) =>
                            ((key, value) :: pairs, left)
                      | _ => none
              | _ => none
      | _ => none

end

/-- The value of a whole text, in a dialect. -/
def parseIn (dialect : Dialect) (text : String) : Option Value :=
  let chars := skipGap text.toList
  match readValue dialect (chars.length + 1) chars with
  | some (value, left) => if (skipGap left).isEmpty then some value else none
  | none => none

/-- The value of a whole text among settings. -/
def parse? (text : String) : Option Value :=
  parseIn .settings text

end Bindery.Json
