/-!
Contract: cutting a text into lines, in two ways.

Owns:
- `splitAt`, which cuts at every occurrence of one character and loses only that character;
- `breakLines`, which cuts at every line boundary of Unicode, takes a carriage return with its
  line feed as one boundary, and gives no empty line after a final boundary;
- `joinLines`, which puts one line feed between two lines.

Does not own: the reading of files, which turns every ASCII line end into a line feed first
(`Bindery.Text.Utf8`).
-/

namespace Bindery.Text

/-- Cuts a text at every occurrence of `mark`. There is one part more than there are marks. -/
def splitAt (mark : Char) : List Char → List (List Char)
  | [] => [[]]
  | c :: rest =>
      if c = mark then [] :: splitAt mark rest
      else
        match splitAt mark rest with
        | [] => [[c]]
        | part :: parts => (c :: part) :: parts

/-- The ten characters that end a line. -/
def isLineBoundary (c : Char) : Bool :=
  let code := c.toNat
  (0x0a ≤ code && code ≤ 0x0d) || (0x1c ≤ code && code ≤ 0x1e) || code == 0x85 ||
    code == 0x2028 || code == 0x2029

def breakLines : List Char → List (List Char)
  | [] => []
  | '\r' :: '\n' :: rest => [] :: breakLines rest
  | c :: rest =>
      if isLineBoundary c then [] :: breakLines rest
      else
        match breakLines rest with
        | [] => [[c]]
        | line :: lines => (c :: line) :: lines

/-- The lines put together again, one line feed between two of them. -/
def joinLines (lines : List String) : String :=
  "\n".intercalate lines

def splitNewlines (text : String) : List String :=
  (splitAt '\n' text.toList).map String.ofList

/-- The lines of a string, cut at every line boundary. -/
def linesOf (text : String) : List String :=
  (breakLines text.toList).map String.ofList

theorem splitAt_ne_nil (mark : Char) (text : List Char) : splitAt mark text ≠ [] := by
  cases text with
  | nil => simp [splitAt]
  | cons c rest =>
      simp only [splitAt]
      split
      · simp
      · split <;> simp

theorem mark_notMem_of_mem_splitAt (mark : Char) (text : List Char) :
    ∀ part ∈ splitAt mark text, mark ∉ part := by
  induction text with
  | nil => simp [splitAt]
  | cons c rest inductionHypothesis =>
      intro part member
      simp only [splitAt] at member
      split at member
      · rcases List.mem_cons.1 member with rfl | member
        · simp
        · exact inductionHypothesis part member
      · rename_i different
        cases shape : splitAt mark rest with
        | nil => exact absurd shape (splitAt_ne_nil mark rest)
        | cons first others =>
            rw [shape] at member inductionHypothesis
            rcases List.mem_cons.1 member with rfl | member
            · have clean := inductionHypothesis first List.mem_cons_self
              simp only [List.mem_cons, not_or]
              exact ⟨fun h => different h.symm, clean⟩
            · exact inductionHypothesis part (List.mem_cons_of_mem _ member)

/-- Putting the mark back between the parts gives the text. -/
theorem intercalate_splitAt (mark : Char) (text : List Char) :
    [mark].intercalate (splitAt mark text) = text := by
  induction text with
  | nil => rfl
  | cons c rest inductionHypothesis =>
      simp only [splitAt]
      cases shape : splitAt mark rest with
      | nil => exact absurd shape (splitAt_ne_nil mark rest)
      | cons first others =>
          rw [shape] at inductionHypothesis
          split
          · rename_i same
            subst same
            rw [← inductionHypothesis]
            cases others <;> simp [List.intercalate, List.intersperse]
          · rw [← inductionHypothesis]
            cases others <;> simp [List.intercalate, List.intersperse]

end Bindery.Text
