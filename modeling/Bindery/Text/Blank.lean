/-!
Contract: blank characters, and trimming them from the two ends of a text.

Owns:
- the class of blank characters, which is wider than the ASCII one;
- trimming on character lists and on strings.

Does not own: line boundaries, which are a smaller class (`Bindery.Text.Lines`).
-/

namespace Bindery.Text

/-- A blank character: a horizontal or vertical space of Unicode, a line or paragraph
separator, or one of the four ASCII information separators. -/
def isBlank (c : Char) : Bool :=
  let code := c.toNat
  (0x09 ≤ code && code ≤ 0x0d) || (0x1c ≤ code && code ≤ 0x20) || code == 0x85 ||
    code == 0xa0 || code == 0x1680 || (0x2000 ≤ code && code ≤ 0x200a) ||
    code == 0x2028 || code == 0x2029 || code == 0x202f || code == 0x205f || code == 0x3000

def trimStart (text : List Char) : List Char :=
  text.dropWhile isBlank

def trimEnd (text : List Char) : List Char :=
  (text.reverse.dropWhile isBlank).reverse

def trim (text : List Char) : List Char :=
  trimEnd (trimStart text)

def strip (text : String) : String :=
  String.ofList (trim text.toList)

theorem trimStart_eq_self {c : Char} {rest : List Char} (h : isBlank c = false) :
    trimStart (c :: rest) = c :: rest := by
  simp [trimStart, h]

theorem trimStart_trimStart (text : List Char) : trimStart (trimStart text) = trimStart text := by
  induction text with
  | nil => rfl
  | cons c rest inductionHypothesis =>
      cases blank : isBlank c with
      | true =>
          have passes : trimStart (c :: rest) = trimStart rest := List.dropWhile_cons_of_pos blank
          rw [passes, inductionHypothesis]
      | false => rw [trimStart_eq_self blank, trimStart_eq_self blank]

theorem isBlank_eq_false_of_trimStart {c : Char} {rest : List Char}
    (trimmed : trimStart (c :: rest) = c :: rest) : isBlank c = false := by
  cases blank : isBlank c with
  | false => rfl
  | true =>
      have shorter : (trimStart (c :: rest)).length ≤ rest.length := by
        rw [show trimStart (c :: rest) = trimStart rest from List.dropWhile_cons_of_pos blank]
        exact (List.dropWhile_sublist _).length_le
      rw [trimmed, List.length_cons] at shorter
      omega

theorem trimEnd_isPrefix (text : List Char) : trimEnd text <+: text := by
  have suffix : text.reverse.dropWhile isBlank <:+ text.reverse := List.dropWhile_suffix _
  have turned := List.reverse_prefix.2 suffix
  rw [List.reverse_reverse] at turned
  exact turned

theorem trimEnd_trimEnd (text : List Char) : trimEnd (trimEnd text) = trimEnd text := by
  unfold trimEnd
  rw [List.reverse_reverse]
  exact congrArg List.reverse (trimStart_trimStart text.reverse)

/-- What has been trimmed at its start stays so when it is trimmed at its end. -/
theorem trimStart_trim (text : List Char) : trimStart (trim text) = trim text := by
  cases shape : trim text with
  | nil => rfl
  | cons c rest =>
      obtain ⟨beyond, whole⟩ := trimEnd_isPrefix (trimStart text)
      rw [show trimEnd (trimStart text) = c :: rest from shape, List.cons_append] at whole
      have trimmed := trimStart_trimStart text
      rw [← whole] at trimmed
      exact trimStart_eq_self (isBlank_eq_false_of_trimStart trimmed)

theorem trim_trim (text : List Char) : trim (trim text) = trim text := by
  calc trim (trim text) = trimEnd (trim text) := congrArg trimEnd (trimStart_trim text)
    _ = trim text := trimEnd_trimEnd (trimStart text)

end Bindery.Text
