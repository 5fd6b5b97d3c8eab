/-!
Contract: double-precision numbers as exact values, and their texts.

Owns:
- `Binary64`, a number of 53 significant bits as an exact value;
- reading a decimal: the nearest double, a tie to the even one;
- `fixed`, the decimal with a given number of places nearest to the exact value, a tie to the
  even last digit;
- differences and multiples, which are exact before they are rounded to a double once;
- `shortest`, the fewest decimal digits that read back, and of those the nearest.

All arithmetic is on natural numbers and exact.
-/

namespace Bindery.Number

/-- A double-precision number. A finite one is `significand * 2 ^ exponent`. -/
inductive Binary64 where
  | finite (negative : Bool) (significand : Nat) (exponent : Int)
  | infinite (negative : Bool)
  | undefined
deriving DecidableEq, Repr

/-- The quotient rounded to the nearest integer, a tie to the even one. -/
def roundQuotient (numerator denominator : Nat) : Nat :=
  let quotient := numerator / denominator
  let twice := 2 * (numerator % denominator)
  if twice < denominator then quotient
  else if denominator < twice then quotient + 1
  else if quotient % 2 = 0 then quotient
  else quotient + 1

/-- A power with an integer exponent as a fraction: numerator and denominator. -/
def powerFraction (base : Nat) (exponent : Int) : Nat × Nat :=
  if 0 ≤ exponent then (base.pow exponent.toNat, 1) else (1, base.pow (-exponent).toNat)

def leastExponent : Int := -1074

/-- The greatest exponent of a double of 53 bits. -/
def greatestExponent : Int := 971

/-- What every significand of a double is below: two to the power of 53. -/
def fullSignificand : Nat := 9007199254740992

def nearest (negative : Bool) (numerator denominator : Nat) : Binary64 :=
  let guess : Int := Int.ofNat numerator.log2 - Int.ofNat denominator.log2 - 53
  let roundAt (exponent : Int) : Nat :=
    let (up, down) := powerFraction 2 (-exponent)
    roundQuotient (numerator * up) (denominator * down)
  let belowLimit (exponent : Int) : Bool :=
    let (up, down) := powerFraction 2 (-exponent)
    numerator * up < denominator * down * fullSignificand
  let exponent :=
    if belowLimit guess then guess
    else if belowLimit (guess + 1) then guess + 1
    else guess + 2
  let exponent := max exponent leastExponent
  let significand := roundAt exponent
  if significand = 0 then .finite negative 0 0
  else if significand = fullSignificand then
    if greatestExponent < exponent + 1 then .infinite negative
    else .finite negative (fullSignificand / 2) (exponent + 1)
  else if greatestExponent < exponent then .infinite negative
  else .finite negative significand exponent

/-- The double nearest to `digits * 10 ^ scale`. -/
def Binary64.ofDecimal (negative : Bool) (digits : Nat) (scale : Int) : Binary64 :=
  if digits = 0 then .finite negative 0 0
  else
    let size : Int := Int.ofNat (Nat.toDigits 10 digits).length + scale
    if size < -400 then .finite negative 0 0
    else if 400 < size then .infinite negative
    else
      let (up, down) := powerFraction 10 scale
      nearest negative (digits * up) down

def Binary64.ofFraction (numerator : Int) (denominator : Nat) : Binary64 :=
  if numerator = 0 then .finite false 0 0
  else nearest (numerator < 0) numerator.natAbs denominator

/-- The exact value of a finite number, as a fraction. -/
def Binary64.fraction : Binary64 → Option (Int × Nat)
  | .finite negative significand exponent =>
      let (up, down) := powerFraction 2 exponent
      some (if negative then -(significand * up : Nat) else (significand * up : Nat), down)
  | _ => none

/-- The double nearest to the difference of two finite numbers. -/
def Binary64.minus (left right : Binary64) : Binary64 :=
  match left.fraction, right.fraction with
  | some (a, b), some (c, d) => .ofFraction (a * d - c * b) (b * d)
  | _, _ => .undefined

/-- The double nearest to a multiple of a finite number. -/
def Binary64.times (factor : Nat) (number : Binary64) : Binary64 :=
  match number.fraction with
  | some (a, b) => .ofFraction (a * factor) b
  | none => number

def Binary64.ofInt (value : Int) : Binary64 :=
  .ofDecimal (value < 0) value.natAbs 0

def Binary64.isZero : Binary64 → Bool
  | .finite _ significand _ => significand = 0
  | _ => false

/-- The least whole number that is not below a finite number. -/
def Binary64.ceiling : Binary64 → Option Int
  | .finite negative significand exponent =>
      let (up, down) := powerFraction 2 exponent
      let numerator : Int :=
        if negative then -(significand * up : Nat) else (significand * up : Nat)
      some (-((-numerator).fdiv down))
  | _ => none

def Binary64.toInt? : Binary64 → Option Int
  | .finite negative significand exponent =>
      let (up, down) := powerFraction 2 exponent
      let size := significand * up
      if size % down = 0 then
        some (if negative then -((size / down : Nat) : Int) else ((size / down : Nat) : Int))
      else none
  | _ => none

/-- The order of two numbers; nothing is below or above what is not a number. -/
def Binary64.lt : Binary64 → Binary64 → Bool
  | .undefined, _ | _, .undefined => false
  | .infinite negative, .infinite other => negative && !other
  | .infinite negative, .finite .. => negative
  | .finite .., .infinite negative => !negative
  | .finite negative m e, .finite negative' m' e' =>
      let low := min e e'
      let a : Int := (m * Nat.pow 2 (e - low).toNat : Nat)
      let b : Int := (m' * Nat.pow 2 (e' - low).toNat : Nat)
      (if negative then -a else a) < (if negative' then -b else b)

/-- The exact value times `10 ^ scale`, rounded to a whole number, a tie to the even one. -/
def scaledRound (significand : Nat) (exponent scale : Int) : Nat :=
  let (up, down) := powerFraction 2 exponent
  let (up', down') := powerFraction 10 scale
  roundQuotient (significand * up * up') (down * down')

/-- The double nearest to the decimal of `places` digits behind the point that is nearest to the
exact value. -/
def Binary64.rounded (places : Nat) : Binary64 → Binary64
  | .finite negative significand exponent =>
      .ofDecimal negative (scaledRound significand exponent places) (-places)
  | other => other

/-- The digits of a number with `places` of them behind the point. -/
def placed (places value : Nat) : String :=
  let whole := toString (value / Nat.pow 10 places)
  if places = 0 then whole
  else
    let digits := toString (value % Nat.pow 10 places)
    whole ++ "." ++ String.ofList (List.replicate (places - digits.length) '0') ++ digits

/-- The decimal of `places` digits behind the point that is nearest to the exact value. -/
def Binary64.fixed (places : Nat) : Binary64 → String
  | .undefined => "nan"
  | .infinite negative => if negative then "-inf" else "inf"
  | .finite negative significand exponent =>
      (if negative then "-" else "") ++ placed places (scaledRound significand exponent places)

/-- The decimal digits and the scale of the shortest decimal that reads back as the number:
tries one digit more until one of the two neighbours on the grid of that many digits reads back,
and takes the nearer. -/
def shortestFrom (significand : Nat) (exponent : Int) (leading : Int) : Nat → Nat → Nat × Int
  | 0, count => (scaledRound significand exponent (count - 1 - leading), leading - count + 1)
  | steps + 1, count =>
      let scale : Int := count - 1 - leading
      let (up, down) := powerFraction 2 exponent
      let (up', down') := powerFraction 10 scale
      let numerator := significand * up * up'
      let denominator := down * down'
      let below := numerator / denominator
      let readsBack (digits : Nat) : Bool :=
        digits != 0 &&
          Binary64.ofDecimal false digits (-scale) == .finite false significand exponent
      let lowFits := readsBack below
      let highFits := readsBack (below + 1)
      if lowFits || highFits then
        let nearer := roundQuotient numerator denominator
        let digits := if lowFits && highFits then nearer else if lowFits then below else below + 1
        (digits, -scale)
      else shortestFrom significand exponent leading steps (count + 1)

/-- The place of the leading decimal digit: the greatest `k` with `10 ^ k` not above the value. -/
def leadingPlace (significand : Nat) (exponent : Int) : Int :=
  let (up, down) := powerFraction 2 exponent
  let numerator := significand * up
  let guess : Int :=
    Int.ofNat (Nat.toDigits 10 numerator).length - Int.ofNat (Nat.toDigits 10 down).length
  let (up', down') := powerFraction 10 guess
  if down * up' ≤ numerator * down' then guess else guess - 1

def dropZeros : Nat → Nat → Int → Nat × Int
  | 0, digits, scale => (digits, scale)
  | steps + 1, digits, scale =>
      if digits != 0 && digits % 10 = 0 then dropZeros steps (digits / 10) (scale + 1)
      else (digits, scale)

/-- The shortest decimal `digits * 10 ^ scale` that reads back as a nonzero number. -/
def shortest (significand : Nat) (exponent : Int) : Nat × Int :=
  let (digits, scale) := shortestFrom significand exponent (leadingPlace significand exponent) 16 1
  dropZeros 20 digits scale

/-- How a number is written: up to which place of the leading digit it is positional, below which
it is not, and the shape of an exponent. -/
structure NumberFormat where
  positionalFrom : Int
  positionalBelow : Int
  positiveSign : String
  exponentWidth : Nat
  undefinedText : String
  infiniteText : String
deriving DecidableEq, Repr

/-- Positional from 0.0001 to below 10^16; exponents carry a sign and two digits. -/
def plainFormat : NumberFormat := ⟨-4, 16, "+", 2, "nan", "inf"⟩

/-- Positional from 0.00001 to below 10^16; exponents carry a sign and have no padding. What is
not a finite number has no form of its own in a document. -/
def documentFormat : NumberFormat := ⟨-5, 16, "+", 1, "null", "null"⟩

/-- The text of a number in its shortest digits. -/
def Binary64.render (format : NumberFormat) : Binary64 → String
  | .undefined => format.undefinedText
  | .infinite negative =>
      if format.infiniteText == "null" then format.infiniteText
      else (if negative then "-" else "") ++ format.infiniteText
  | .finite negative significand exponent =>
      let sign := if negative then "-" else ""
      if significand = 0 then sign ++ "0.0"
      else
        let (digits, scale) := shortest significand exponent
        let shown := toString digits
        let count : Int := shown.length
        let place := count + scale - 1
        if format.positionalFrom ≤ place && place < format.positionalBelow then
          if 0 ≤ scale then sign ++ placed 0 (digits * Nat.pow 10 scale.toNat) ++ ".0"
          else sign ++ placed (-scale).toNat digits
        else
          let mantissa :=
            match shown.toList with
            | [] => ""
            | [only] => String.ofList [only]
            | first :: more => String.ofList (first :: '.' :: more)
          let size := toString place.natAbs
          let padding := String.ofList (List.replicate (format.exponentWidth - size.length) '0')
          let mark := if place < 0 then "-" else format.positiveSign
          sign ++ mantissa ++ "e" ++ mark ++ padding ++ size

end Bindery.Number
