/-!
Contract: how many digits a whole number may have where one is read from text, and what is said of
one that has more.
-/

namespace Bindery.Number

def digitLimit : Nat := 4300

/-- What is said of a whole number with too many digits. -/
def tooManyDigitsText (count : Nat) : String :=
  "Exceeds the limit (" ++ toString digitLimit ++
    " digits) for integer string conversion: value has " ++ toString count ++
    " digits; use sys.set_int_max_str_digits() to increase the limit"

end Bindery.Number
