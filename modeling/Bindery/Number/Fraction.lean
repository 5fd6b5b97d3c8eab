import Bindery.Number.Binary64

/-!
Contract: fractions written in decimal digits.

Owns:
- `Fraction`, the exact value of a decimal text, and its rounding to a number of binary digits;
- the three forms in which a fraction is written: with a fixed number of places, with an exponent,
  and in the shorter of these two with a number of significant digits.

Every form is exact but for its last digit, of which a half goes to the even neighbour.
-/

namespace Bindery.Number

/-- A fraction: its sign, and a quotient of naturals. -/
structure Fraction where
  negative : Bool
  numerator : Nat
  denominator : Nat
deriving DecidableEq, Repr

def digitsValue (digits : List Char) : Nat :=
  digits.foldl (fun total c => total * 10 + (c.toNat - '0'.toNat)) 0

namespace Fraction

/-- Reads a fraction from the front of a text, and answers what is behind it. -/
def read? (text : List Char) : Option (Fraction × List Char) :=
  let (negative, unsigned) : Bool × List Char :=
    match text with
    | '-' :: rest => (true, rest)
    | '+' :: rest => (false, rest)
    | _ => (false, text)
  let whole := unsigned.takeWhile Char.isDigit
  let afterWhole := unsigned.drop whole.length
  let (places, afterPlaces) : List Char × List Char :=
    match afterWhole with
    | '.' :: rest => (rest.takeWhile Char.isDigit, rest.dropWhile Char.isDigit)
    | _ => ([], afterWhole)
  if whole.isEmpty && places.isEmpty then none
  else
    let (below, power, rest) : Bool × Nat × List Char :=
      match afterPlaces with
      | c :: more =>
          if c = 'e' || c = 'E' then
            let (below, digits) : Bool × List Char :=
              match more with
              | '-' :: after => (true, after)
              | '+' :: after => (false, after)
              | _ => (false, more)
            let shown := digits.takeWhile Char.isDigit
            if shown.isEmpty then (false, 0, afterPlaces)
            else (below, min (digitsValue shown) 5000, digits.drop shown.length)
          else (false, 0, afterPlaces)
      | [] => (false, 0, [])
    let value := digitsValue (whole ++ places)
    let scale := Nat.pow 10 places.length
    let shift := Nat.pow 10 power
    let read : Fraction :=
      if below then ⟨negative, value, scale * shift⟩ else ⟨negative, value * shift, scale⟩
    some (read, rest)

/-- The fraction with the given number of binary digits that is nearest. -/
def toBits (value : Fraction) (bits : Nat) : Fraction :=
  if value.numerator = 0 then value
  else
    let size := value.numerator.log2
    let base := value.denominator.log2
    let scaled (up down : Nat) : Nat :=
      roundQuotient (value.numerator * Nat.pow 2 up) (value.denominator * Nat.pow 2 down)
    let estimateUp := (bits + base) - size
    let estimateDown := size - (bits + base)
    let long := Nat.pow 2 bits ≤ scaled estimateUp estimateDown
    let up := if long && 0 < estimateUp then estimateUp - 1 else estimateUp
    let down := if long && estimateUp = 0 then estimateDown + 1 else estimateDown
    ⟨value.negative, scaled up down * Nat.pow 2 down, Nat.pow 2 up⟩

/-- The decimal digits of a natural, at least `count` of them. -/
def padded (count value : Nat) : List Char :=
  let digits := Nat.toDigits 10 value
  List.replicate (count - digits.length) '0' ++ digits

/-- The point and the places behind it, unless there are none. -/
def pointed (always : Bool) (places : List Char) : List Char :=
  if places.isEmpty && !always then [] else '.' :: places

def fixed (value : Fraction) (places : Nat) (always : Bool) : List Char :=
  let digits :=
    padded (places + 1) (roundQuotient (value.numerator * Nat.pow 10 places) value.denominator)
  let whole := digits.length - places
  digits.take whole ++ pointed always (digits.drop whole)

/-- The power of ten of the first digit, and `places + 1` digits. -/
def significant (value : Fraction) (places : Nat) : Int × List Char :=
  if value.numerator = 0 then (0, List.replicate (places + 1) '0')
  else
    let scaled (power : Int) : Nat :=
      let shift := Int.ofNat places - power
      roundQuotient (value.numerator * Nat.pow 10 shift.toNat)
        (value.denominator * Nat.pow 10 (-shift).toNat)
    let length (n : Nat) : Int := Int.ofNat (Nat.toDigits 10 n).length
    let guess := length value.numerator - length value.denominator
    let power := if value.numerator * Nat.pow 10 (-guess).toNat <
        value.denominator * Nat.pow 10 guess.toNat then guess - 1 else guess
    let digits := Nat.toDigits 10 (scaled power)
    if places + 1 < digits.length then (power + 1, Nat.toDigits 10 (scaled (power + 1)))
    else (power, digits)

/-- The exponent with its sign and at least two digits. -/
def exponentText (mark : Char) (power : Int) : List Char :=
  mark :: (if power < 0 then '-' else '+') :: padded 2 power.natAbs

def scientific (value : Fraction) (places : Nat) (always : Bool) (mark : Char) : List Char :=
  let (power, digits) := value.significant places
  digits.take 1 ++ pointed always (digits.drop 1) ++ exponentText mark power

/-- Digits without the zeros at the end of their places. -/
def withoutZeros (digits : List Char) : List Char :=
  if digits.contains '.' then
    let kept := (digits.reverse.dropWhile (· = '0')).reverse
    if kept.getLast? = some '.' then kept.dropLast else kept
  else digits

def shorter (value : Fraction) (count : Nat) (always : Bool) (mark : Char) : List Char :=
  let count := max count 1
  let (power, digits) := value.significant (count - 1)
  let trim (digits : List Char) : List Char := if always then digits else withoutZeros digits
  if -5 < power && power < Int.ofNat count then
    trim (value.fixed (Int.ofNat count - 1 - power).toNat always)
  else trim (digits.take 1 ++ pointed always (digits.drop 1)) ++ exponentText mark power

end Fraction

end Bindery.Number
