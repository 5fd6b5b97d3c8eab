import Bindery.Text.Quoted

/-!
Contract: the text of a file or of a program's output, and the bytes of a text.

Owns:
- `decodeLossy`, which reads UTF-8 and puts one replacement character for every longest prefix
  of a character that the next byte, or the end, cuts off;
- `firstFault`, which tells where and why bytes are not UTF-8;
- `unifyNewlines`, which turns every carriage return, with or without a line feed, into a line
  feed;
- `encode`, the UTF-8 bytes of a text.

A byte order mark is a character like any other.
-/

namespace Bindery.Text

def replacement : Char := '\ufffd'

/-- A character of which some bytes have been read: how many are missing, between which bounds
the next one lies, and the bits so far. -/
structure Unfinished where
  missing : Nat
  low : Nat
  high : Nat
  bits : Nat
deriving DecidableEq, Repr

/-- What a byte between two characters starts. -/
inductive Lead where
  | whole (c : Char)
  | opens (start : Unfinished)
  | invalid
deriving DecidableEq, Repr

/-- The well-formed lead bytes. The bounds of the second byte exclude overlong forms, surrogates
and code points beyond the last one. -/
def leadOf (byte : Nat) : Lead :=
  if byte < 0x80 then .whole (Char.ofNat byte)
  else if byte < 0xc2 then .invalid
  else if byte < 0xe0 then .opens ⟨1, 0x80, 0xbf, byte - 0xc0⟩
  else if byte = 0xe0 then .opens ⟨2, 0xa0, 0xbf, 0⟩
  else if byte = 0xed then .opens ⟨2, 0x80, 0x9f, 0xd⟩
  else if byte < 0xf0 then .opens ⟨2, 0x80, 0xbf, byte - 0xe0⟩
  else if byte = 0xf0 then .opens ⟨3, 0x90, 0xbf, 0⟩
  else if byte < 0xf4 then .opens ⟨3, 0x80, 0xbf, byte - 0xf0⟩
  else if byte = 0xf4 then .opens ⟨3, 0x80, 0x8f, 4⟩
  else .invalid

def Unfinished.accepts (start : Unfinished) (byte : Nat) : Bool :=
  start.low ≤ byte && byte ≤ start.high

def Unfinished.pushBits (start : Unfinished) (byte : Nat) : Nat :=
  start.bits * 64 + (byte - 0x80)

/-- The character after one more byte, when bytes are still missing after it. -/
def Unfinished.push (start : Unfinished) (byte : Nat) : Unfinished :=
  ⟨start.missing - 1, 0x80, 0xbf, start.pushBits byte⟩

/-- Reads bytes, `pending` being the character begun before them. -/
def decodeFrom : Option Unfinished → List UInt8 → List Char
  | none, [] => []
  | some _, [] => [replacement]
  | none, byte :: rest =>
      match leadOf byte.toNat with
      | .whole c => c :: decodeFrom none rest
      | .opens start => decodeFrom (some start) rest
      | .invalid => replacement :: decodeFrom none rest
  | some start, byte :: rest =>
      if start.accepts byte.toNat then
        if start.missing ≤ 1 then
          Char.ofNat (start.pushBits byte.toNat) :: decodeFrom none rest
        else decodeFrom (some (start.push byte.toNat)) rest
      else
        match leadOf byte.toNat with
        | .whole c => replacement :: c :: decodeFrom none rest
        | .opens next => replacement :: decodeFrom (some next) rest
        | .invalid => replacement :: replacement :: decodeFrom none rest

/-- The text of bytes, with replacement characters for what is not UTF-8. -/
def decodeLossy (bytes : List UInt8) : List Char :=
  decodeFrom none bytes

inductive Utf8Fault where
  | badStart
  | badContinuation
  | cutOff
deriving DecidableEq, Repr

/-- The first fault: its kind, the position of the first byte concerned and their number. -/
structure Utf8FaultAt where
  kind : Utf8Fault
  position : Nat
  length : Nat
  byte : Nat
deriving DecidableEq, Repr

/-- Looks for the first fault. `position` is that of the next byte, `pending` holds the character
begun, its first byte and how many bytes of it were read. -/
def faultFrom : (position : Nat) → Option (Unfinished × Nat × Nat) → List UInt8 → Option Utf8FaultAt
  | _, none, [] => none
  | position, some (_, byte, read), [] => some ⟨.cutOff, position - read, read, byte⟩
  | position, none, byte :: rest =>
      match leadOf byte.toNat with
      | .whole _ => faultFrom (position + 1) none rest
      | .opens start => faultFrom (position + 1) (some (start, byte.toNat, 1)) rest
      | .invalid => some ⟨.badStart, position, 1, byte.toNat⟩
  | position, some (start, first, read), byte :: rest =>
      if start.accepts byte.toNat then
        if start.missing ≤ 1 then faultFrom (position + 1) none rest
        else faultFrom (position + 1) (some (start.push byte.toNat, first, read + 1)) rest
      else some ⟨.badContinuation, position - read, read, first⟩

/-- The first place at which bytes are not UTF-8. -/
def firstFault (bytes : List UInt8) : Option Utf8FaultAt :=
  faultFrom 0 none bytes

def Utf8FaultAt.message (fault : Utf8FaultAt) : String :=
  let place :=
    if fault.length ≤ 1 then
      s!"byte 0x{String.ofList (hexPadded 2 fault.byte)} in position {fault.position}"
    else s!"bytes in position {fault.position}-{fault.position + fault.length - 1}"
  let reason :=
    match fault.kind with
    | .badStart => "invalid start byte"
    | .badContinuation => "invalid continuation byte"
    | .cutOff => "unexpected end of data"
  s!"'utf-8' codec can't decode {place}: {reason}"

/-- Turns every line end of ASCII into a line feed. -/
def unifyNewlines : List Char → List Char
  | [] => []
  | '\r' :: '\n' :: rest => '\n' :: unifyNewlines rest
  | '\r' :: rest => '\n' :: unifyNewlines rest
  | c :: rest => c :: unifyNewlines rest

/-- The text that a file or a stream of bytes stands for. -/
def readLossy (bytes : List UInt8) : String :=
  String.ofList (unifyNewlines (decodeLossy bytes))

/-- The text of a file that has to be UTF-8. -/
def readStrict (bytes : List UInt8) : Except Utf8FaultAt String :=
  match firstFault bytes with
  | some fault => .error fault
  | none => .ok (readLossy bytes)

def encode (text : String) : List UInt8 :=
  text.toUTF8.data.toList

end Bindery.Text
