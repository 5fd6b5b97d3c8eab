import Bindery.Text.Printable

/-!
Contract: a text inside quotation marks, as messages show it.

Owns:
- the choice of the mark: single, unless the text holds a single mark and no double one;
- the escapes: the mark and the backslash behind a backslash, three named control characters,
  and hexadecimal forms of two, four or eight digits for what is not printable.
-/

namespace Bindery.Text

/-- The hexadecimal digits of `value`, in lower case, padded with zeros to `width`. -/
def hexPadded (width value : Nat) : List Char :=
  let digits := Nat.toDigits 16 value
  List.replicate (width - digits.length) '0' ++ digits

def quotationMark (text : List Char) : Char :=
  if text.contains '\'' && !text.contains '"' then '"' else '\''

def quoteChar (mark c : Char) : List Char :=
  if c = mark || c = '\\' then ['\\', c]
  else if c = '\n' then ['\\', 'n']
  else if c = '\r' then ['\\', 'r']
  else if c = '\t' then ['\\', 't']
  else if isPrintable c then [c]
  else if c.toNat < 0x100 then '\\' :: 'x' :: hexPadded 2 c.toNat
  else if c.toNat < 0x10000 then '\\' :: 'u' :: hexPadded 4 c.toNat
  else '\\' :: 'U' :: hexPadded 8 c.toNat

def quoteChars (text : List Char) : List Char :=
  let mark := quotationMark text
  mark :: text.flatMap (quoteChar mark) ++ [mark]

def quote (text : String) : String :=
  String.ofList (quoteChars text.toList)

end Bindery.Text
