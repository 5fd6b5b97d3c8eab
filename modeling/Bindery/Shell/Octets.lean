import Bindery.Path
import Bindery.Text.Utf8

/-!
Contract: text as a shell sees it, one byte after another.

Owns:
- the form in which a shell holds text: every character stands for the byte of its number, so that
  lengths, cuts and comparisons count bytes, and bytes that are no UTF-8 survive;
- `octets` and `readable`, which lead into this form and out of it;
- `bytesOf`, the bytes that a text in this form stands for.
-/

namespace Bindery.Shell

def octet (byte : UInt8) : Char :=
  Char.ofNat byte.toNat

def octetsOf (bytes : List UInt8) : List Char :=
  bytes.map octet

/-- A text as characters that stand for its bytes. -/
def octets (text : String) : String :=
  String.ofList (octetsOf (Text.encode text))

def bytesOf (chars : List Char) : List UInt8 :=
  chars.map fun c => UInt8.ofNat c.toNat

def readable (text : String) : String :=
  String.ofList (Text.decodeLossy (bytesOf text.toList))

/-- The path that a text in the form of a shell names. -/
def pathOf (text : String) : Path :=
  .ofString (readable text)

end Bindery.Shell
