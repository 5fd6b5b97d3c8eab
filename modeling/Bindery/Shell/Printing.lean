import Bindery.Number.Fraction
import Bindery.Shell.Octets

/-!
Contract: the two commands that print.

Owns:
- the escapes: characters by name, bytes by an octal number, and in the separate program also bytes
  and characters by a hexadecimal number;
- the conversions of arguments: text, text with escapes, one character, whole numbers, fractions;
- `formatted`, which prints arguments in the places of a format, and goes through the format again
  while arguments are left;
- `echoed`, which prints arguments with blanks between them.

All text is in the form of `Bindery.Shell.octets`.
-/

namespace Bindery.Shell

/-- Which command prints: the one that a shell has built in, or the program of that name. -/
inductive Printer where
  | builtIn
  | program
deriving DecidableEq, Repr

/-- A width or a precision. -/
inductive Measure where
  | absent
  | fixed (count : Nat)
  | argument
deriving DecidableEq, Repr

structure Conversion where
  leftward : Bool
  signed : Bool
  spaced : Bool
  zeros : Bool
  based : Bool
  width : Measure
  precision : Measure
  letter : Char
deriving DecidableEq, Repr

/-- What is wrong with a format or an argument. -/
inductive PrintFault where
  | notNumeric (argument : String)
  | partlyNumeric (argument : String)
  | outOfRange (argument : String)
  | tailIgnored (rest : String)
  | excess (argument : String)
  | unknownConversion (text : String)
  | noHexadecimal
  | badCharacterName (text : String)
deriving DecidableEq, Repr

/-- A piece of a format: bytes, the place of an argument, the end of all output, or a fault. -/
inductive FormatPiece where
  | bytes (content : List UInt8)
  | place (conversion : Conversion)
  | stop
  | faulty (fault : PrintFault)
deriving DecidableEq, Repr

/-- A text between the quotation marks of the program's messages. -/
def marked (text : String) : String :=
  octets "‘" ++ text ++ octets "’"

def PrintFault.text : Printer → PrintFault → String
  | .builtIn, notNumeric argument => argument ++ ": expected numeric value"
  | .builtIn, partlyNumeric argument => argument ++ ": not completely converted"
  | .builtIn, outOfRange argument => argument ++ ": Numerical result out of range"
  | .builtIn, unknownConversion text =>
      if text = "%" then "missing format character" else text ++ ": invalid directive"
  | .program, notNumeric argument => marked argument ++ ": expected a numeric value"
  | .program, partlyNumeric argument => marked argument ++ ": value not completely converted"
  | .program, outOfRange argument => marked argument ++ ": Numerical result out of range"
  | .program, unknownConversion text => text ++ ": invalid conversion specification"
  | _, tailIgnored rest =>
      "warning: " ++ rest ++ ": character(s) following character constant have been ignored"
  | _, excess argument =>
      "warning: ignoring excess arguments, starting with " ++ marked argument
  | _, noHexadecimal => "missing hexadecimal number in escape"
  | _, badCharacterName text => "invalid universal character name " ++ text

def PrintFault.status : Printer → PrintFault → Int
  | .builtIn, unknownConversion _ => 2
  | _, tailIgnored _ => 0
  | _, excess _ => 0
  | _, _ => 1

def PrintFault.ends : PrintFault → Bool
  | unknownConversion _ => true
  | noHexadecimal => true
  | badCharacterName _ => true
  | _ => false

/-- What has been printed, and whether that is the end of all output. -/
structure Printed where
  bytes : List UInt8
  faults : List PrintFault
  stopped : Bool
deriving DecidableEq, Repr

namespace Printed

def nothing : Printed :=
  ⟨[], [], false⟩

def ofBytes (bytes : List UInt8) : Printed :=
  ⟨bytes, [], false⟩

def append (first second : Printed) : Printed :=
  if first.stopped then first
  else ⟨first.bytes ++ second.bytes, first.faults ++ second.faults, second.stopped⟩

/-- The status of the command. The program succeeds when it is told to stop. -/
def status (printer : Printer) (printed : Printed) : Int :=
  if printer = .program && printed.stopped && !printed.faults.any PrintFault.ends then 0
  else (printed.faults.map fun fault => fault.status printer).foldl max 0

end Printed

/-! ## Escapes -/

def namedEscape (c : Char) : Option UInt8 :=
  if c = 'n' then some 10
  else if c = 't' then some 9
  else if c = 'r' then some 13
  else if c = 'a' then some 7
  else if c = 'b' then some 8
  else if c = 'e' then some 27
  else if c = 'f' then some 12
  else if c = 'v' then some 11
  else if c = '\\' then some 92
  else none

def isOctal (c : Char) : Bool :=
  '0' ≤ c && c ≤ '7'

def hexValue (c : Char) : Option Nat :=
  if c.isDigit then some (c.toNat - '0'.toNat)
  else if 'a' ≤ c && c ≤ 'f' then some (c.toNat - 'a'.toNat + 10)
  else if 'A' ≤ c && c ≤ 'F' then some (c.toNat - 'A'.toNat + 10)
  else none

/-- The number that digits of a base stand for. -/
def numberOf (base : Nat) (digits : List Char) : Nat :=
  digits.foldl (fun total c => total * base + (hexValue c).getD 0) 0

def hexPaddedTo (count value : Nat) : List Char :=
  let digits := Nat.toDigits 16 value
  List.replicate (count - digits.length) '0' ++ digits

/-- The character of a number, given by `count` hexadecimal digits. No half of a surrogate pair can
be named. -/
def namedCharacter (sign : Char) (count value : Nat) : FormatPiece :=
  if 0xd800 ≤ value && value ≤ 0xdfff then
    .faulty (.badCharacterName (String.ofList ('\\' :: sign :: hexPaddedTo count value)))
  else if 0x10ffff < value then
    .bytes (bytesOf ('\\' :: 'U' :: (hexPaddedTo 8 value).map Char.toUpper))
  else .bytes (Text.encode (String.ofList [Char.ofNat value]))

/-- Reads an escape behind its backslash, and answers what is behind the escape. Inside of an
argument, an octal number may have a zero in front of its three digits. -/
def readEscape (printer : Printer) (inArgument : Bool) (c : Char) (rest : List Char) :
    FormatPiece × List Char :=
  let octalText := if inArgument && c = '0' then rest else c :: rest
  let octal := (octalText.take 3).takeWhile isOctal
  let isHex (c : Char) : Bool := (hexValue c).isSome
  let named (count : Nat) : FormatPiece × List Char :=
    let digits := (rest.take count).takeWhile isHex
    if digits.length < count then (.faulty .noHexadecimal, [])
    else (namedCharacter c count (numberOf 16 digits), rest.drop count)
  if isOctal c then (.bytes [.ofNat (numberOf 8 octal)], octalText.drop octal.length)
  else if c = 'c' && (inArgument || printer = .program) then (.stop, rest)
  else if printer = .program && c = '"' then (.bytes [34], rest)
  else if printer = .program && c = 'x' then
    let digits := (rest.take 2).takeWhile isHex
    if digits.isEmpty then (.faulty .noHexadecimal, [])
    else (.bytes [.ofNat (numberOf 16 digits)], rest.drop digits.length)
  else if printer = .program && c = 'u' then named 4
  else if printer = .program && c = 'U' then named 8
  else
    match namedEscape c with
    | some byte => (.bytes [byte], rest)
    | none => (.bytes (92 :: bytesOf [c]), rest)

/-- The output of a text in which escapes count. -/
def escaped (printer : Printer) : (fuel : Nat) → List Char → Printed
  | 0, _ => .nothing
  | _, [] => .nothing
  | fuel + 1, '\\' :: c :: rest =>
      match readEscape printer true c rest with
      | (.bytes content, left) => .append (.ofBytes content) (escaped printer fuel left)
      | (.faulty fault, _) => ⟨[], [fault], true⟩
      | (_, _) => ⟨[], [], true⟩
  | fuel + 1, c :: rest => .append (.ofBytes (bytesOf [c])) (escaped printer fuel rest)

/-- The output of a text in which escapes count. -/
def escapedText (printer : Printer) (text : String) : Printed :=
  escaped printer (text.length + 1) text.toList

/-! ## Numbers -/

def isSpace (c : Char) : Bool :=
  c = ' ' || (9 ≤ c.toNat && c.toNat ≤ 13)

/-- The base of the number that a text begins with, and the text behind its sign. -/
def splitBase : List Char → Nat × List Char
  | '0' :: 'x' :: c :: rest =>
      if (hexValue c).isSome then (16, c :: rest) else (8, '0' :: 'x' :: c :: rest)
  | '0' :: 'X' :: c :: rest =>
      if (hexValue c).isSome then (16, c :: rest) else (8, '0' :: 'X' :: c :: rest)
  | '0' :: rest => (8, '0' :: rest)
  | text => (10, text)

def wordModulus : Int := 18446744073709551616

/-- The least and the greatest whole number with a sign. -/
def leastWord : Int := -9223372036854775808

def greatestWord : Int := 9223372036854775807

/-- Reads a whole number in any base from the front of a text: its value, whether there are
digits, and what is behind them. -/
def readWhole (text : List Char) : Int × Bool × List Char :=
  let text := text.dropWhile isSpace
  let (negative, unsigned) : Bool × List Char :=
    match text with
    | '-' :: rest => (true, rest)
    | '+' :: rest => (false, rest)
    | _ => (false, text)
  let (base, rest) := splitBase unsigned
  let digits := rest.takeWhile fun c => (hexValue c).any (· < base)
  let value := Int.ofNat (numberOf base digits)
  (if negative then -value else value, !digits.isEmpty, rest.drop digits.length)

/-- The number of the character that a quote in front of it asks for. -/
def characterNumber (printer : Printer) (text : List Char) : Int × List PrintFault :=
  match printer with
  | .builtIn => (Int.ofNat ((text.head?.map Char.toNat).getD 0), [])
  | .program =>
      let decoded := (Text.decodeLossy (bytesOf text)).headD Text.replacement
      let taken := (octetsOf (Text.encode (String.ofList [decoded]))).length
      let (number, rest) : Nat × List Char :=
        if text.take taken = octetsOf (Text.encode (String.ofList [decoded])) then
          (decoded.toNat, text.drop taken)
        else ((text.head?.map Char.toNat).getD 0, text.drop 1)
      (Int.ofNat number, if rest.isEmpty then [] else [.tailIgnored (String.ofList rest)])

/-- The characters behind a quote in front of an argument, if it asks for the number of one. To the
program, a quote alone does not. -/
def behindQuote? (printer : Printer) (argument : String) : Option (List Char) :=
  match argument.toList with
  | sign :: rest =>
      if (sign = '\'' || sign = '"') && (printer = .builtIn || !rest.isEmpty) then some rest
      else none
  | [] => none

/-- What is wrong with an argument of which `rest` was not read. -/
def leftOver (argument : String) (found : Bool) (rest : List Char) : List PrintFault :=
  if rest.isEmpty && (found || argument.isEmpty) then []
  else if found then [.partlyNumeric argument]
  else [.notNumeric argument]

/-- The whole number that an argument stands for, with or without a sign. -/
def wholeNumber (printer : Printer) (signed : Bool) (argument : String) :
    Int × List PrintFault :=
  match behindQuote? printer argument with
  | some rest => characterNumber printer rest
  | none =>
      let (value, found, rest) := readWhole argument.toList
      let faults := leftOver argument found rest
      let beyond (bound : Int) : Int × List PrintFault :=
        match printer with
        | .builtIn => (bound, faults ++ [.outOfRange argument])
        | .program => (bound, [.outOfRange argument])
      if signed then
        if value < leastWord then beyond leastWord
        else if greatestWord < value then beyond greatestWord
        else (value, faults)
      else if value ≤ -wordModulus || wordModulus ≤ value then beyond (wordModulus - 1)
      else (value % wordModulus, faults)

def Measure.count? : Measure → Option Nat
  | absent => none
  | fixed count => some count
  | argument => none

/-- The digits of a number in capitals, if the conversion asks for them. -/
def Conversion.cased (conversion : Conversion) (digits : List Char) : List Char :=
  if conversion.letter.isUpper then digits.map Char.toUpper else digits

def Conversion.signOf (conversion : Conversion) (negative : Bool) : List Char :=
  if negative then ['-']
  else if conversion.signed then ['+']
  else if conversion.spaced then [' ']
  else []

/-- The sign and the digits of a whole number. -/
def numeral (conversion : Conversion) (value : Int) : List Char × List Char :=
  let unsigned := (value % wordModulus).toNat
  let atLeast (digits : List Char) : List Char :=
    List.replicate (conversion.precision.count?.getD 1 - digits.length) '0' ++
      (if conversion.precision.count? = some 0 && value = 0 then [] else digits)
  match conversion.letter with
  | 'o' =>
      let digits := atLeast (Nat.toDigits 8 unsigned)
      ([], if conversion.based && digits.head? != some '0' then '0' :: digits else digits)
  | 'u' => ([], atLeast (Nat.toDigits 10 unsigned))
  | 'd' => (conversion.signOf (value < 0), atLeast (Nat.toDigits 10 value.natAbs))
  | 'i' => (conversion.signOf (value < 0), atLeast (Nat.toDigits 10 value.natAbs))
  | _ =>
      (if conversion.based && unsigned != 0 then ['0', conversion.letter] else [],
        conversion.cased (atLeast (Nat.toDigits 16 unsigned)))

def wholeLetters : List Char := ['d', 'i', 'u', 'o', 'x', 'X']

def fractionLetters : List Char := ['f', 'F', 'e', 'E', 'g', 'G']

/-- The fraction that an argument stands for. The shell computes with 53 binary digits and the
program with 64. -/
def fractionOf (printer : Printer) (argument : String) : Number.Fraction × List PrintFault :=
  match behindQuote? printer argument with
  | some rest =>
      let (value, faults) := characterNumber printer rest
      (⟨false, value.toNat, 1⟩, faults)
  | none =>
      let text := argument.toList
      match Number.Fraction.read? (text.dropWhile isSpace) with
      | some (value, rest) =>
          (value.toBits (if printer = .builtIn then 53 else 64), leftOver argument true rest)
      | none => (⟨false, 0, 1⟩, leftOver argument false text)

def Conversion.fractionDigits (conversion : Conversion) (value : Number.Fraction) : List Char :=
  let places := conversion.precision.count?.getD 6
  conversion.cased
    (if conversion.letter = 'f' || conversion.letter = 'F' then
      value.fixed places conversion.based
    else if conversion.letter = 'e' || conversion.letter = 'E' then
      value.scientific places conversion.based 'e'
    else value.shorter places conversion.based 'e')

/-! ## Places -/

/-- Fills bytes with blanks to the width of a place. -/
def Conversion.fill (conversion : Conversion) (bytes : List UInt8) : List UInt8 :=
  let blanks := List.replicate (conversion.width.count?.getD 0 - bytes.length) 32
  if conversion.leftward then bytes ++ blanks else blanks ++ bytes

/-- The bytes of a number with its sign, filled with zeros if the conversion asks for them. -/
def Conversion.fillNumber (conversion : Conversion) (zeros : Bool) (sign digits : List Char) :
    List UInt8 :=
  let missing := conversion.width.count?.getD 0 - (sign.length + digits.length)
  let shown := if zeros && conversion.zeros && !conversion.leftward then missing else 0
  conversion.fill (bytesOf (sign ++ List.replicate shown '0' ++ digits))

/-- Whether a character stands for itself in a shell wherever it is. -/
def isPlain (c : Char) : Bool :=
  c.isAlphanum || "%+,-./:@_]".toList.contains c || 128 ≤ c.toNat

/-- A text in a form that a shell reads back. -/
def quotedForShell (text : List Char) : List Char :=
  if text.isEmpty then ['\'', '\'']
  else if text.all isPlain then text
  else if text.contains '\'' && !text.any fun c => "\"$\\!".toList.contains c || c.toNat == 96 then
    '"' :: text ++ ['"']
  else
    '\'' :: text.flatMap (fun c => if c = '\'' then ['\'', '\\', '\'', '\''] else [c]) ++ ['\'']

def Conversion.output (printer : Printer) (conversion : Conversion) (argument : String) :
    Printed :=
  let cut (bytes : List UInt8) : List UInt8 :=
    match conversion.precision.count? with
    | some count => bytes.take count
    | none => bytes
  let bytes := bytesOf argument.toList
  match conversion.letter with
  | 's' => .ofBytes (conversion.fill (cut bytes))
  | 'b' =>
      let inner := escapedText printer argument
      match printer with
      | .builtIn => { inner with bytes := conversion.fill (cut inner.bytes) }
      | .program => inner
  | 'q' => .ofBytes (bytesOf (quotedForShell argument.toList))
  | 'c' => .ofBytes (conversion.fill [bytes.headD 0])
  | letter =>
      if fractionLetters.contains letter then
        let (value, faults) := fractionOf printer argument
        ⟨conversion.fillNumber true (conversion.signOf value.negative)
          (conversion.fractionDigits value), faults, false⟩
      else
        let (value, faults) := wholeNumber printer (letter = 'd' || letter = 'i') argument
        let (sign, digits) := numeral conversion value
        ⟨conversion.fillNumber conversion.precision.count?.isNone sign digits, faults, false⟩

/-! ## Formats -/

/-- Reads a width or the digits of a precision. -/
def readMeasure (text : List Char) : Measure × List Char :=
  match text with
  | '*' :: rest => (.argument, rest)
  | _ =>
      let digits := text.takeWhile Char.isDigit
      (if digits.isEmpty then .absent else .fixed (numberOf 10 digits), text.drop digits.length)

/-- Whether a conversion can have the flags and the precision that it has. -/
def Conversion.isAllowed (printer : Printer) (conversion : Conversion) : Bool :=
  match printer with
  | .builtIn =>
      (['s', 'b', 'c'] ++ wholeLetters ++ fractionLetters).contains conversion.letter
  | .program =>
      (['s', 'c'] ++ wholeLetters ++ fractionLetters).contains conversion.letter &&
        !(conversion.based && ['c', 'd', 'i', 's', 'u'].contains conversion.letter) &&
        !(conversion.zeros && ['c', 's'].contains conversion.letter) &&
        !(conversion.precision != .absent && conversion.letter = 'c')

/-- The flags by which the program groups digits or takes those of a language, which changes nothing
here. -/
def groupingFlags : List Char := ['\'', 'I']

/-- The letters that may tell the program the size of a number. -/
def sizeLetters : List Char := ['l', 'L', 'h', 'j', 't', 'z']

def Conversion.plain (letter : Char) : Conversion :=
  ⟨false, false, false, false, false, .absent, .absent, letter⟩

def readConversion (printer : Printer) (text : List Char) : FormatPiece × List Char :=
  let flags := text.takeWhile fun c =>
    ['-', '+', ' ', '#', '0'].contains c || (printer = .program && groupingFlags.contains c)
  let (width, afterWidth) := readMeasure (text.drop flags.length)
  let (precision, afterPrecision) : Measure × List Char :=
    match afterWidth with
    | '.' :: rest =>
        match readMeasure rest with
        | (.absent, left) => (.fixed 0, left)
        | other => other
    | _ => (.absent, afterWidth)
  let afterSize :=
    if printer = .program then afterPrecision.dropWhile sizeLetters.contains else afterPrecision
  let read := text.length - afterSize.length
  match printer, text, afterSize with
  | .program, 'b' :: rest, _ => (.place (.plain 'b'), rest)
  | .program, 'q' :: rest, _ => (.place (.plain 'q'), rest)
  | .builtIn, _, [] => (.faulty (.unknownConversion "%"), [])
  | .program, _, [] => (.faulty (.unknownConversion (String.ofList ('%' :: text))), [])
  | _, _, letter :: rest =>
      let conversion : Conversion :=
        ⟨flags.contains '-', flags.contains '+', flags.contains ' ', flags.contains '0',
          flags.contains '#', width, precision, letter⟩
      let grouped := flags.any groupingFlags.contains &&
        !(['d', 'i', 'u', 'f', 'F', 'g', 'G'].contains letter)
      if conversion.isAllowed printer && !grouped then (.place conversion, rest)
      else (.faulty (.unknownConversion (String.ofList ('%' :: text.take (read + 1)))), rest)

def formatPieces (printer : Printer) : (fuel : Nat) → List Char → List FormatPiece
  | 0, _ => []
  | _, [] => []
  | fuel + 1, '%' :: '%' :: rest => .bytes [37] :: formatPieces printer fuel rest
  | fuel + 1, '%' :: rest =>
      let (piece, left) := readConversion printer rest
      piece :: formatPieces printer fuel left
  | fuel + 1, '\\' :: c :: rest =>
      let (piece, left) := readEscape printer false c rest
      piece :: formatPieces printer fuel left
  | fuel + 1, c :: rest => .bytes (bytesOf [c]) :: formatPieces printer fuel rest

/-- The conversion whose width and precision are known, and the arguments that are left. A
negative width is one to the left, and a negative precision is none. -/
def Conversion.settle (printer : Printer) (conversion : Conversion) (arguments : List String) :
    Conversion × List PrintFault × List String :=
  let (withWidth, widthFaults, afterWidth) : Conversion × List PrintFault × List String :=
    match conversion.width with
    | .argument =>
        let (value, faults) := wholeNumber printer true (arguments.headD "")
        ({ conversion with
            width := .fixed value.natAbs
            leftward := conversion.leftward || value < 0 }, faults, arguments.drop 1)
    | _ => (conversion, [], arguments)
  match withWidth.precision with
  | .argument =>
      let (value, faults) := wholeNumber printer true (afterWidth.headD "")
      ({ withWidth with precision := if value < 0 then .absent else .fixed value.toNat },
        widthFaults ++ faults, afterWidth.drop 1)
  | _ => (withWidth, widthFaults, afterWidth)

/-- Goes through a format once, and answers the arguments that are left. -/
def formatOnce (printer : Printer) : List FormatPiece → List String → Printed × List String
  | [], arguments => (.nothing, arguments)
  | .bytes content :: rest, arguments =>
      let (output, left) := formatOnce printer rest arguments
      ({ output with bytes := content ++ output.bytes }, left)
  | .stop :: _, arguments => (⟨[], [], true⟩, arguments)
  | .faulty fault :: _, arguments => (⟨[], [fault], true⟩, arguments)
  | .place conversion :: rest, arguments =>
      let (settled, faults, remaining) := conversion.settle printer arguments
      let shown := settled.output printer (remaining.headD "")
      let (output, left) := formatOnce printer rest (remaining.drop 1)
      (.append ⟨[], faults, false⟩ (shown.append output), left)

def formatAll (printer : Printer) (pieces : List FormatPiece) :
    (fuel : Nat) → List String → Printed
  | 0, _ => .nothing
  | fuel + 1, arguments =>
      let (output, left) := formatOnce printer pieces arguments
      if left.isEmpty then output
      else if left.length = arguments.length then
        match printer with
        | .builtIn => output
        | .program => output.append ⟨[], [.excess (left.headD "")], false⟩
      else output.append (formatAll printer pieces fuel left)

def formatted (printer : Printer) (format : String) (arguments : List String) : Printed :=
  let chars := format.toList
  formatAll printer (formatPieces printer (chars.length + 1) chars) (arguments.length + 1) arguments

/-- The bytes that arguments print, with a line end unless the first one or an escape forbids
it. -/
def echoed (arguments : List String) : List UInt8 :=
  let (lineEnd, shown) : List UInt8 × List String :=
    match arguments with
    | "-n" :: rest => ([], rest)
    | _ => ([10], arguments)
  ((escapedText .builtIn (" ".intercalate shown)).append (.ofBytes lineEnd)).bytes

end Bindery.Shell
