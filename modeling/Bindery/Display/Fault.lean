import Bindery.Number.Limit

/-!
Contract: why a text cannot be shown.

Owns `DisplayFault` and its wording: a closing tag without an opening one, the arguments of a
handler that are no values, the numbers of a colour, and cuts of a text that ends before the cut
although its cells, counted as a whole, reach beyond it.
-/

namespace Bindery

/-- Why a text cannot be shown. -/
inductive DisplayFault where
  | unmatchedTag
  | badHandler
  | emptyNumber
  | tooManyDigits (count : Nat)
  | cutBeyondEnd
  | cutOfNothing
deriving DecidableEq, Repr

def DisplayFault.message : DisplayFault → String
  | unmatchedTag => "a closing tag has no opening tag"
  | badHandler => "the arguments of a handler are no values"
  | emptyNumber => "invalid literal for int() with base 10: ''"
  | tooManyDigits count => Number.tooManyDigitsText count
  | cutBeyondEnd => "list index out of range"
  | cutOfNothing => "float division by zero"

end Bindery
