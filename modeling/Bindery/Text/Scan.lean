/-!
Contract: finding the occurrences of a pattern in a text, from left to right and without overlap.

Owns:
- `Recogniser`, a pattern that is tried at the front of a text and answers what it found and how
  many characters it took;
- `scan`, which splits a text into plain characters and occurrences;
- `erase` and `replaceAll`, the two edits that need nothing but the text.

Each occurrence starts at the first place where the pattern applies after the occurrence before
it. A recogniser that takes no character is treated as taking one.
-/

namespace Bindery.Text

/-- Tried at the front of a text: what was found, and the number of characters it took. -/
abbrev Recogniser (α : Type) := List Char → Option (α × Nat)

/-- A text cut by a pattern: a character outside of all occurrences, or an occurrence. -/
inductive Piece (α : Type) where
  | plain (c : Char)
  | found (value : α)
deriving DecidableEq, Repr

/-- Scans a text of which the first `skip` characters belong to the last occurrence. -/
def scanFrom {α : Type} (recognise : Recogniser α) : (skip : Nat) → List Char → List (Piece α)
  | _, [] => []
  | skip + 1, _ :: rest => scanFrom recognise skip rest
  | 0, c :: rest =>
      match recognise (c :: rest) with
      | some (value, taken) => .found value :: scanFrom recognise (taken - 1) rest
      | none => .plain c :: scanFrom recognise 0 rest

/-- The plain characters and the occurrences of a pattern, in order. -/
def scan {α : Type} (recognise : Recogniser α) (text : List Char) : List (Piece α) :=
  scanFrom recognise 0 text

/-- Puts pieces together, each occurrence in the form that `render` gives it. -/
def assemble {α : Type} (render : α → List Char) : List (Piece α) → List Char
  | [] => []
  | .plain c :: rest => c :: assemble render rest
  | .found value :: rest => render value ++ assemble render rest

/-- Puts pieces together, each occurrence in the form that an effect gives it, from left to
right. -/
def assembleM {m : Type → Type} [Monad m] {α : Type} (render : α → m (List Char)) :
    List (Piece α) → m (List Char)
  | [] => pure []
  | .plain c :: rest => do
      let text ← assembleM render rest
      return c :: text
  | .found value :: rest => do
      let shown ← render value
      let text ← assembleM render rest
      return shown ++ text

def erase {α : Type} (recognise : Recogniser α) (text : List Char) : List Char :=
  assemble (fun _ => []) (scan recognise text)

def literal (word : List Char) : Recogniser Unit := fun text =>
  if word.isPrefixOf text then some ((), word.length) else none

/-- Puts `new` for every occurrence of `old`. The empty word occurs nowhere. -/
def replaceAll (old new text : List Char) : List Char :=
  if old.isEmpty then text else assemble (fun _ => new) (scan (literal old) text)

@[simp]
theorem scan_nil {α : Type} (recognise : Recogniser α) : scan recognise [] = [] := rfl

theorem scan_cons_of_none {α : Type} {recognise : Recogniser α} {c : Char} {rest : List Char}
    (h : recognise (c :: rest) = none) :
    scan recognise (c :: rest) = .plain c :: scan recognise rest := by
  simp [scan, scanFrom, h]

theorem scanFrom_eq_drop {α : Type} (recognise : Recogniser α) (skip : Nat) (text : List Char) :
    scanFrom recognise skip text = scan recognise (text.drop skip) := by
  induction skip generalizing text with
  | zero => simp [scan]
  | succ skip inductionHypothesis =>
      cases text with
      | nil => simp [scanFrom]
      | cons c rest => simp [scanFrom, inductionHypothesis]

theorem scan_cons_of_some {α : Type} {recognise : Recogniser α} {c : Char} {rest : List Char}
    {value : α} {taken : Nat} (h : recognise (c :: rest) = some (value, taken)) :
    scan recognise (c :: rest) = .found value :: scan recognise (rest.drop (taken - 1)) := by
  simp only [scan, scanFrom, h]
  exact congrArg _ (scanFrom_eq_drop recognise (taken - 1) rest)

theorem assemble_append {α : Type} (render : α → List Char) (left right : List (Piece α)) :
    assemble render (left ++ right) = assemble render left ++ assemble render right := by
  induction left with
  | nil => rfl
  | cons piece rest inductionHypothesis =>
      cases piece <;> simp [assemble, inductionHypothesis]

@[simp]
theorem replaceAll_nil_left (new text : List Char) : replaceAll [] new text = text := rfl

end Bindery.Text
