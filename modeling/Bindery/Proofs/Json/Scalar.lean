import Bindery.Value.Json
import Bindery.Value.JsonReader
import Mathlib.Tactic.SplitIfs

/-!
Contract: texts, whole numbers and words are read as they were written.

Owns:
- the escapes of a text, each of which is read as the character that it stands for;
- whole numbers of any size, where nothing behind them continues a number;
- the three words.

Does **not** own: lists and mappings (`Bindery.Proofs.Json.Pretty`).
-/

namespace Bindery.Json

variable {dialect : Dialect}

/-! ## Texts -/

/-- Puts a character in front of what was read of a text. -/
def consChar (c : Char) (reading : Option (List StringUnit × List Char)) :
    Option (List StringUnit × List Char) :=
  reading.map fun (units, left) => (.char c :: units, left)

theorem readUnits_short {name c : Char} (rest : List Char) (other : name ≠ 'u')
    (escaped : shortEscaped name = some c) :
    readUnits ('\\' :: name :: rest) = consChar c (readUnits rest) := by
  rw [readUnits]
  · rw [escaped]
    cases readUnits rest <;> rfl
  · intro _ _ _ _ _ same
    exact absurd same other

theorem readUnits_code {a b c d : Char} {code : Nat} (rest : List Char)
    (value : hexNumber [a, b, c, d] = some code) (whole : code < 0xd800) :
    readUnits ('\\' :: 'u' :: a :: b :: c :: d :: rest) =
      consChar (Char.ofNat code) (readUnits rest) := by
  have single : StringUnit.ofCode code = .char (Char.ofNat code) := by
    unfold StringUnit.ofCode
    rw [if_neg]
    simp only [Bool.and_eq_true, decide_eq_true_eq, not_and, Nat.not_le]
    omega
  rw [readUnits, value]
  cases readUnits rest with
  | none => rfl
  | some reading => exact congrArg (fun unit => some (unit :: reading.1, reading.2)) single

theorem readUnits_plain {c : Char} (rest : List Char) (noMark : c ≠ '"') (noSlash : c ≠ '\\')
    (visible : ¬c.toNat < 0x20) : readUnits (c :: rest) = consChar c (readUnits rest) := by
  rw [readUnits]
  · rw [if_neg]
    · rfl
    · simp [visible, noSlash]
  · exact noMark
  · intro _ _ _ _ _ same
    exact absurd same noSlash
  · intro _ _ same
    exact absurd same noSlash

/-- A short escape is read as the character that it is the escape of. -/
theorem shortEscaped_shortEscape {c name : Char} (short : shortEscape c = some name) :
    name ≠ 'u' ∧ shortEscaped name = some c := by
  unfold shortEscape at short
  split_ifs at short with same same same same same same same <;>
    cases Option.some.inj short <;> subst same <;> decide

/-- A control character is written with four digits, which are read as its code. -/
theorem hexNumber_hexPadded {code : Nat} (small : code < 0x20) :
    ∃ a b c d, Text.hexPadded 4 code = [a, b, c, d] ∧ hexNumber [a, b, c, d] = some code := by
  have four : ∀ code < 0x20, (Text.hexPadded 4 code).length = 4 ∧
      hexNumber (Text.hexPadded 4 code) = some code := by
    decide
  obtain ⟨length, value⟩ := four code small
  match digits : Text.hexPadded 4 code, length with
  | [a, b, c, d], _ => exact ⟨a, b, c, d, rfl, digits ▸ value⟩

/-- What is written for a character is read as this character. -/
theorem readUnits_escapeChar (c : Char) (rest : List Char) :
    readUnits (escapeChar c ++ rest) = consChar c (readUnits rest) := by
  unfold escapeChar
  split
  · rename_i name short
    obtain ⟨other, escaped⟩ := shortEscaped_shortEscape short
    exact readUnits_short rest other escaped
  · rename_i long
    split
    · rename_i control
      obtain ⟨x, y, z, w, digits, value⟩ := hexNumber_hexPadded control
      have read := readUnits_code rest value (Nat.lt_trans control (by decide))
      rw [Char.ofNat_toNat] at read
      rw [digits]
      exact read
    · rename_i visible
      have noMark : c ≠ '"' := by
        rintro rfl
        contradiction
      have noSlash : c ≠ '\\' := by
        rintro rfl
        contradiction
      exact readUnits_plain rest noMark noSlash visible

/-- Characters that come one by one are not joined. -/
theorem joinHalves_map_char (text : List Char) : joinHalves (text.map .char) = text := by
  induction text with
  | nil => rfl
  | cons c rest inductionHypothesis => exact congrArg (c :: ·) inductionHypothesis

theorem readUnits_escaped (text rest : List Char) :
    readUnits (text.flatMap escapeChar ++ '"' :: rest) = some (text.map .char, rest) := by
  induction text with
  | nil => rfl
  | cons c others inductionHypothesis =>
      rw [List.flatMap_cons, List.append_assoc, readUnits_escapeChar, inductionHypothesis]
      rfl

/-- A written text is read behind its opening mark, and nothing behind its closing mark. -/
theorem readString_escaped (text : String) (rest : List Char) :
    readString (text.toList.flatMap escapeChar ++ '"' :: rest) = some (text, rest) := by
  unfold readString
  rw [readUnits_escaped, Option.map_some]
  simp only [joinHalves_map_char, String.ofList_toList]

theorem toList_string (text : String) :
    (string text).toList = '"' :: (text.toList.flatMap escapeChar ++ ['"']) := by
  unfold string
  rw [String.toList_ofList]
  rfl

/-! ## Whole numbers -/

/-- Whether a text behind a whole number leaves the number as it is. -/
def endsNumber : List Char → Bool
  | [] => true
  | c :: _ => !(c.isDigit || c = '.' || c = 'e' || c = 'E')

def digitsOf (number : Int) : List Char :=
  Nat.toDigits 10 number.natAbs

theorem decimalValue_toDigits (number : Nat) : decimalValue (Nat.toDigits 10 number) = number := by
  have value := Nat.ofDigitChars_ten_toDigits (n := number)
  rw [Nat.ofDigitChars_eq_foldl] at value
  unfold decimalValue
  simp only [Nat.mul_comm _ 10]
  exact value

/-- A whole number is written without zeros in front. -/
theorem head?_toDigits {number : Nat} (positive : 0 < number) :
    (Nat.toDigits 10 number).head? ≠ some '0' := by
  induction number using Nat.strongRecOn with
  | ind number inductionHypothesis =>
      rcases Nat.lt_or_ge number 10 with small | large
      · have single : ∀ n < 10, 0 < n → (Nat.toDigits 10 n).head? ≠ some '0' := by decide
        exact single number small positive
      · rw [Nat.toDigits_of_base_le (by decide) large, List.head?_append]
        have front := inductionHypothesis (number / 10) (by omega) (by omega)
        cases shape : Nat.toDigits 10 (number / 10) with
        | nil => exact absurd shape Nat.toDigits_ne_nil
        | cons first others =>
            rw [shape] at front
            exact front

theorem toList_toString (number : Int) :
    (toString number).toList = (if number < 0 then ['-'] else []) ++ digitsOf number := by
  unfold digitsOf
  cases number with
  | ofNat size =>
      rw [if_neg (show ¬Int.ofNat size < 0 from Int.not_lt.2 (Int.natCast_nonneg size))]
      exact Nat.toList_repr
  | negSucc size =>
      rw [if_pos (Int.negSucc_lt_zero size)]
      show ("-" ++ Nat.repr (size + 1)).toList = _
      rw [String.toList_append, Nat.toList_repr]
      rfl

theorem isDigit_of_mem_digitsOf {number : Int} {c : Char} (among : c ∈ digitsOf number) :
    c.isDigit = true :=
  Nat.isDigit_of_mem_toDigits (by decide) (by decide) among

/-- The run of digits in front of a text that ends a number is the number. -/
theorem takeWhile_isDigit_digitsOf (number : Int) {rest : List Char}
    (ends : endsNumber rest = true) :
    (digitsOf number ++ rest).takeWhile Char.isDigit = digitsOf number := by
  rw [List.takeWhile_append_of_pos fun c => isDigit_of_mem_digitsOf]
  cases rest with
  | nil => exact List.append_nil _
  | cons c others =>
      have noDigit : c.isDigit = false := by
        unfold endsNumber at ends
        simp only [Bool.not_eq_true', Bool.or_eq_false_iff] at ends
        exact ends.1.1.1
      rw [List.takeWhile_cons_of_neg (by rw [noDigit]; decide), List.append_nil]

/-- A number of several digits has no zero in front, so that it is read whole. -/
theorem wholeOf_digitsOf (number : Int) :
    (if (digitsOf number).head? = some '0' then (digitsOf number).take 1 else digitsOf number) =
      digitsOf number := by
  unfold digitsOf
  rcases Nat.eq_zero_or_pos number.natAbs with zero | positive
  · rw [zero]
    rfl
  · rw [if_neg (head?_toDigits positive)]

theorem readFraction_of_endsNumber {rest : List Char} (ends : endsNumber rest = true) :
    readFraction rest = (none, rest) := by
  unfold readFraction
  split
  · contradiction
  · rfl

theorem readExponent_of_endsNumber {rest : List Char} (ends : endsNumber rest = true) :
    readExponent rest = (none, rest) := by
  unfold readExponent
  cases rest with
  | nil => rfl
  | cons c others =>
      have noExponent : (c = 'e' || c = 'E') = false := by
        unfold endsNumber at ends
        simp only [Bool.not_eq_true', Bool.or_eq_false_iff] at ends
        simp only [Bool.or_eq_false_iff]
        exact ⟨ends.1.2, ends.2⟩
      simp only [noExponent]
      rfl

/-- The digits of a number are read behind its sign, and nothing behind them. -/
theorem readUnsigned_digitsOf {number : Int} {rest : List Char} (negative : Bool)
    (ends : endsNumber rest = true) (fits : dialect.admits (digitsOf number).length = true) :
    readUnsigned dialect negative (digitsOf number ++ rest) =
      some (.int (if negative then -number.natAbs else number.natAbs), rest) := by
  have nonempty : (digitsOf number).isEmpty = false :=
    List.isEmpty_eq_false_iff.2 Nat.toDigits_ne_nil
  have size : decimalValue (digitsOf number) = number.natAbs :=
    decimalValue_toDigits number.natAbs
  unfold readUnsigned
  simp only [takeWhile_isDigit_digitsOf number ends, wholeOf_digitsOf, nonempty, List.drop_left,
    readFraction_of_endsNumber ends, readExponent_of_endsNumber ends, fits, size]
  rfl

/-- A whole number is read, and nothing behind it. -/
theorem readNumber_toString {number : Int} {rest : List Char} (ends : endsNumber rest = true)
    (fits : dialect.admits (digitsOf number).length = true) :
    readNumber dialect ((toString number).toList ++ rest) = some (.int number, rest) := by
  rw [toList_toString]
  split
  · rename_i negative
    show readUnsigned dialect true (digitsOf number ++ rest) = _
    rw [readUnsigned_digitsOf true ends fits, if_pos rfl]
    congr
    omega
  · rename_i positive
    rw [List.nil_append]
    unfold readNumber
    split
    · rename_i left signed
      exfalso
      have among : '-' ∈ digitsOf number := by
        cases shape : digitsOf number with
        | nil => exact absurd shape Nat.toDigits_ne_nil
        | cons c others =>
            rw [shape, List.cons_append] at signed
            rw [(List.cons.inj signed).1]
            exact List.mem_cons_self
      exact absurd (isDigit_of_mem_digitsOf among) (by decide)
    · rw [readUnsigned_digitsOf false ends fits, if_neg (by decide)]
      congr
      omega

/-! ## Words -/

theorem words_subset (dialect : Dialect) : dialect.words ⊆ standardWords ++ nonFiniteWords := by
  unfold Dialect.words
  split
  · exact List.Subset.refl _
  · exact List.subset_append_left _ _

theorem readWord_null (rest : List Char) :
    readWord dialect ('n' :: 'u' :: 'l' :: 'l' :: rest) = some (.null, rest) := by
  obtain ⟨limit, nonFinite⟩ := dialect
  cases nonFinite <;> rfl

theorem readWord_bool (value : Bool) (rest : List Char) :
    readWord dialect ((if value then "true" else "false").toList ++ rest) =
      some (.bool value, rest) := by
  obtain ⟨limit, nonFinite⟩ := dialect
  cases nonFinite <;> cases value <;> rfl

end Bindery.Json
