import Bindery.Proofs.Json.Scalar
import Bindery.Proofs.Value.Entries

/-!
Contract: the pretty form of a value is read as the value.

Owns:
- `Exact`, the values that have a text of their own: without fractions and dates, with one entry for
  each key, and with whole numbers that the dialect admits;
- what stands between the members of a list or a mapping, which is passed over;
- that an exact value is read back from its pretty form, whatever follows it.

Does **not** own: what the values are made for (`Bindery.Outcome`).

## The measure

A reader has fuel for the nesting of values and for the steps along them. Every value and every step
takes at least one character, so that the length of the text is fuel enough.
-/

namespace Bindery.Json

variable {dialect : Dialect} {value : Value} {items : List Value} {entries : Entries}

/-- Values that a reader of the dialect finds again in their text. -/
inductive Exact (dialect : Dialect) : Value → Prop
  | null : Exact dialect .null
  | bool (flag : Bool) : Exact dialect (.bool flag)
  | int (number : Int) (fits : dialect.admits (digitsOf number).length = true) :
      Exact dialect (.int number)
  | str (text : String) : Exact dialect (.str text)
  | list {items : List Value} (each : ∀ item ∈ items, Exact dialect item) :
      Exact dialect (.list items)
  | map {entries : Entries} (distinct : (Entries.keys entries).Nodup)
      (each : ∀ entry ∈ entries, Exact dialect entry.2) : Exact dialect (.map entries)

/-! ## Gaps -/

/-- A text that does not begin with a gap. -/
def Solid (text : List Char) : Prop :=
  ∀ c ∈ text.head?, isGap c = false

theorem skipGap_of_solid {gap text : List Char} (open_ : ∀ c ∈ gap, isGap c = true)
    (solid : Solid text) : skipGap (gap ++ text) = text := by
  unfold skipGap
  rw [List.dropWhile_append_of_pos open_]
  cases text with
  | nil => rfl
  | cons c rest => exact List.dropWhile_cons_of_neg (by rw [solid c rfl]; decide)

theorem solid_cons {c : Char} {rest : List Char} (noGap : isGap c = false) : Solid (c :: rest) := by
  intro first among
  obtain rfl : c = first := Option.some.inj among
  exact noGap

/-- A line end and the blanks that indent a level. -/
def lineGap (level : Nat) : List Char :=
  '\n' :: (indentation level).toList

theorem isGap_of_mem_lineGap {level : Nat} {c : Char} (among : c ∈ lineGap level) :
    isGap c = true := by
  unfold lineGap indentation at among
  rw [String.toList_ofList] at among
  rcases List.mem_cons.1 among with rfl | blank
  · rfl
  · rw [List.eq_of_mem_replicate blank]
    rfl

/-- What stands between two members on the lines of a level. -/
def separator (level : Nat) : List Char :=
  ',' :: lineGap level

/-! ## The form of a text -/

/-- A character that begins a value: it is no gap, and ends neither a list nor a mapping. -/
structure Begins (c : Char) : Prop where
  noGap : isGap c = false
  noBracket : c ≠ ']'
  noBrace : c ≠ '\x7d'

theorem begins_of_isDigit {c : Char} (digit : c.isDigit = true) : Begins c := by
  constructor
  · unfold isGap
    simp only [Bool.or_eq_false_iff, decide_eq_false_iff_not]
    refine ⟨⟨⟨?_, ?_⟩, ?_⟩, ?_⟩ <;> rintro rfl <;> contradiction
  · rintro rfl
    contradiction
  · rintro rfl
    contradiction

/-- The members of a list or a mapping, with what stands between them. -/
def joined (level : Nat) (members : List String) : List Char :=
  ((",\n" ++ indentation level).intercalate members).toList

theorem joined_singleton (level : Nat) (member : String) :
    joined level [member] = member.toList := by
  unfold joined
  rw [String.intercalate_singleton]

theorem joined_cons_cons (level : Nat) (first second : String) (others : List String) :
    joined level (first :: second :: others) =
      first.toList ++ (separator level ++ joined level (second :: others)) := by
  unfold joined separator lineGap
  rw [String.intercalate_cons_cons, String.toList_append, String.toList_append,
    String.toList_append, List.append_assoc]
  rfl

theorem toList_block {members : List String} (nonempty : members ≠ []) (level : Nat)
    (opening closing : String) :
    (block level opening closing members).toList =
      opening.toList ++ (lineGap (level + 1) ++ (joined (level + 1) members ++
        (lineGap level ++ closing.toList))) := by
  have some_ : members.isEmpty = false := List.isEmpty_eq_false_iff.2 nonempty
  unfold block lineGap joined
  simp only [some_, Bool.false_eq_true, if_false, String.toList_append, List.append_assoc]
  rfl

theorem toList_prettyAt_null (level : Nat) :
    (prettyAt level .null).toList = ['n', 'u', 'l', 'l'] := by
  show "null".toList = _
  rfl

theorem toList_prettyAt_bool (level : Nat) (flag : Bool) :
    (prettyAt level (.bool flag)).toList = (if flag then "true" else "false").toList := rfl

theorem toList_prettyAt_nil (level : Nat) : (prettyAt level (.list [])).toList = ['[', ']'] := by
  show ("[" ++ "]").toList = _
  rfl

theorem toList_prettyAt_empty (level : Nat) :
    (prettyAt level (.map [])).toList = ['\x7b', '\x7d'] := by
  show ("\x7b" ++ "\x7d").toList = _
  rfl

/-- A number begins with its sign or with a digit. -/
theorem exists_toString_cons (number : Int) :
    ∃ c rest, (toString number).toList = c :: rest ∧ (c = '-' ∨ c.isDigit = true) := by
  rw [toList_toString]
  split
  · exact ⟨'-', digitsOf number, rfl, .inl rfl⟩
  · obtain ⟨c, others, digits⟩ : ∃ c others, digitsOf number = c :: others :=
      List.exists_cons_of_ne_nil Nat.toDigits_ne_nil
    have digit : c.isDigit = true := isDigit_of_mem_digitsOf (digits ▸ List.mem_cons_self)
    exact ⟨c, others, digits, .inr digit⟩

/-- Whether a text begins where a value does. -/
def Opens (text : List Char) : Prop :=
  ∃ c rest, text = c :: rest ∧ Begins c

theorem Opens.append {text : List Char} (opens : Opens text) (rest : List Char) :
    Opens (text ++ rest) := by
  obtain ⟨c, others, rfl, begins⟩ := opens
  exact ⟨c, others ++ rest, rfl, begins⟩

theorem Opens.solid {text : List Char} (opens : Opens text) : Solid text := by
  obtain ⟨c, others, rfl, begins⟩ := opens
  exact solid_cons begins.noGap

/-- Every exact value begins with a character that shows that there is one. -/
theorem opens_prettyAt (exact_ : Exact dialect value) (level : Nat) :
    Opens (prettyAt level value).toList := by
  cases exact_ with
  | null => exact ⟨'n', _, toList_prettyAt_null level, by decide, by decide, by decide⟩
  | bool flag =>
      rw [toList_prettyAt_bool]
      cases flag with
      | false => exact ⟨'f', ['a', 'l', 's', 'e'], rfl, by decide, by decide, by decide⟩
      | true => exact ⟨'t', ['r', 'u', 'e'], rfl, by decide, by decide, by decide⟩
  | int number fits =>
      obtain ⟨c, rest, shape, sign | digit⟩ := exists_toString_cons number
      · subst sign
        exact ⟨'-', rest, shape, by decide, by decide, by decide⟩
      · exact ⟨c, rest, shape, begins_of_isDigit digit⟩
  | str text => exact ⟨'"', _, toList_string text, by decide, by decide, by decide⟩
  | @list items each =>
      cases items with
      | nil => exact ⟨'[', _, toList_prettyAt_nil level, by decide, by decide, by decide⟩
      | cons first others =>
          refine ⟨'[', _, toList_block (List.cons_ne_nil _ _) level "[" "]", ?_⟩
          exact ⟨by decide, by decide, by decide⟩
  | @map entries distinct each =>
      cases entries with
      | nil => exact ⟨'\x7b', _, toList_prettyAt_empty level, by decide, by decide, by decide⟩
      | cons first others =>
          refine ⟨'\x7b', _, toList_block (List.cons_ne_nil _ _) level "\x7b" "\x7d", ?_⟩
          exact ⟨by decide, by decide, by decide⟩

/-! ## Reading -/

/-- With fuel for the whole text, the value is read, and nothing behind it that ends a number. -/
def ReadsBack (dialect : Dialect) (text : List Char) (value : Value) : Prop :=
  ∀ fuel rest, text.length ≤ fuel → endsNumber rest = true →
    readValue dialect fuel (text ++ rest) = some (value, rest)

variable {text tail rest : List Char} {level fuel : Nat}

theorem skipGap_lineGap (level : Nat) (solid : Solid text) :
    skipGap (lineGap level ++ text) = text :=
  skipGap_of_solid (fun _ => isGap_of_mem_lineGap) solid

/-- The first member stands in front of what follows it. -/
theorem opens_joined {first : String} (opens : Opens first.toList) (level : Nat)
    (others : List String) : Opens (joined level (first :: others)) := by
  cases others with
  | nil =>
      rw [joined_singleton]
      exact opens
  | cons second more =>
      rw [joined_cons_cons]
      exact opens.append _

/-! ### Lists -/

theorem readItems_last (reads : ReadsBack dialect text value) (enough : text.length ≤ fuel)
    (level : Nat) (rest : List Char) :
    readItems dialect (fuel + 1) (text ++ (lineGap level ++ ']' :: rest)) =
      some ([value], rest) := by
  have read := reads fuel (lineGap level ++ ']' :: rest) enough rfl
  have closes : skipGap (lineGap level ++ ']' :: rest) = ']' :: rest :=
    skipGap_lineGap level (solid_cons (by decide))
  rw [readItems]
  simp only [read, closes]

theorem readItems_step (reads : ReadsBack dialect text value) (enough : text.length ≤ fuel)
    (solid : Solid tail) :
    readItems dialect (fuel + 1) (text ++ (separator level ++ tail)) =
      (readItems dialect fuel tail).map fun (items, left) => (value :: items, left) := by
  have read := reads fuel (separator level ++ tail) enough rfl
  have parts : skipGap (separator level ++ tail) = ',' :: (lineGap level ++ tail) := rfl
  rw [readItems]
  simp only [read, parts, skipGap_lineGap level solid]

/-- The items of a list are read up to its closing bracket. The induction is on the items: one step
reads an item, passes over what stands between two items, and goes on with less fuel. -/
theorem readItems_joined {outer : Nat} (nonempty : items ≠ [])
    (exact_ : ∀ item ∈ items, Exact dialect item)
    (reads : ∀ item ∈ items, ReadsBack dialect (prettyAt level item).toList item)
    (enough : (joined level (prettyItems level items)).length < fuel) :
    readItems dialect fuel
        (joined level (prettyItems level items) ++ (lineGap outer ++ ']' :: rest)) =
      some (items, rest) := by
  induction items generalizing fuel with
  | nil => contradiction
  | cons item others inductionHypothesis =>
      obtain ⟨fuel, rfl⟩ : ∃ left, fuel = left + 1 := ⟨fuel - 1, by omega⟩
      have readsFirst := reads item List.mem_cons_self
      cases others with
      | nil =>
          have shape : joined level (prettyItems level [item]) = (prettyAt level item).toList :=
            joined_singleton level _
          rw [shape] at enough ⊢
          exact readItems_last readsFirst (Nat.le_of_lt_succ enough) outer rest
      | cons next more =>
          have shape : joined level (prettyItems level (item :: next :: more)) =
              (prettyAt level item).toList ++
                (separator level ++ joined level (prettyItems level (next :: more))) :=
            joined_cons_cons level _ _ _
          rw [shape, List.length_append, List.length_append, separator, List.length_cons] at enough
          have opens : Opens (joined level (prettyItems level (next :: more))) :=
            opens_joined (opens_prettyAt (exact_ next (by simp)) level) level _
          have goesOn : readItems dialect fuel
              (joined level (prettyItems level (next :: more)) ++ (lineGap outer ++ ']' :: rest)) =
                some (next :: more, rest) :=
            inductionHypothesis (List.cons_ne_nil _ _)
              (fun other among => exact_ other (List.mem_cons_of_mem _ among))
              (fun other among => reads other (List.mem_cons_of_mem _ among)) (by omega)
          rw [shape, List.append_assoc, List.append_assoc,
            readItems_step readsFirst (by omega) (opens.append _).solid, goesOn]
          rfl

/-! ### Mappings -/

/-- The text of an entry, up to its value. -/
def keyText (key : String) : List Char :=
  (string key).toList ++ [':', ' ']

theorem toList_entry (level : Nat) (key : String) (value : Value) :
    (string key ++ ": " ++ prettyAt level value).toList =
      keyText key ++ (prettyAt level value).toList := by
  rw [String.toList_append, String.toList_append]
  rfl

theorem opens_entry (level : Nat) (key : String) (value : Value) :
    Opens (string key ++ ": " ++ prettyAt level value).toList := by
  rw [toList_entry, keyText, toList_string]
  exact ⟨'"', _, rfl, by decide, by decide, by decide⟩

/-- A key is read up to its value. -/
theorem readString_keyText (key : String) (tail : List Char) :
    ∃ inside, keyText key ++ tail = '"' :: inside ∧
      readString inside = some (key, ':' :: ' ' :: tail) := by
  refine ⟨key.toList.flatMap escapeChar ++ '"' :: ':' :: ' ' :: tail, ?_, ?_⟩
  · unfold keyText
    rw [toList_string]
    simp
  · exact readString_escaped key _

/-- An entry is read up to what stands behind its value. -/
theorem readMembers_entry {key : String} (opens : Opens text) (reads : ReadsBack dialect text value)
    (enough : text.length ≤ fuel) (ends : endsNumber tail = true) :
    readMembers dialect (fuel + 1) (keyText key ++ (text ++ tail)) =
      match skipGap tail with
      | '\x7d' :: left => some ([(key, value)], left)
      | ',' :: more =>
          (readMembers dialect fuel (skipGap more)).map fun (pairs, left) =>
            ((key, value) :: pairs, left)
      | _ => none := by
  have colon : skipGap (':' :: ' ' :: (text ++ tail)) = ':' :: ' ' :: (text ++ tail) := rfl
  have blank : skipGap ([' '] ++ (text ++ tail)) = text ++ tail :=
    skipGap_of_solid (List.forall_mem_singleton.2 rfl) (opens.append tail).solid
  obtain ⟨inside, shape, named⟩ := readString_keyText key (text ++ tail)
  rw [List.singleton_append] at blank
  have unfolded := readMembers.eq_def dialect (fuel + 1) ('"' :: inside)
  simp only [named, colon, blank, reads fuel tail enough ends] at unfolded
  rw [shape]
  exact unfolded

theorem readMembers_last {key : String} (opens : Opens text) (reads : ReadsBack dialect text value)
    (enough : text.length ≤ fuel) (level : Nat) (rest : List Char) :
    readMembers dialect (fuel + 1) (keyText key ++ (text ++ (lineGap level ++ '\x7d' :: rest))) =
      some ([(key, value)], rest) := by
  have closes : skipGap (lineGap level ++ '\x7d' :: rest) = '\x7d' :: rest :=
    skipGap_lineGap level (solid_cons (by decide))
  rw [readMembers_entry opens reads enough rfl, closes]
  rfl

theorem readMembers_step {key : String} (opens : Opens text) (reads : ReadsBack dialect text value)
    (enough : text.length ≤ fuel) (solid : Solid tail) :
    readMembers dialect (fuel + 1) (keyText key ++ (text ++ (separator level ++ tail))) =
      (readMembers dialect fuel tail).map fun (pairs, left) => ((key, value) :: pairs, left) := by
  have parts : skipGap (separator level ++ tail) = ',' :: (lineGap level ++ tail) := rfl
  rw [readMembers_entry opens reads enough rfl, parts]
  simp only [skipGap_lineGap level solid]

/-- The entries of a mapping are read up to its closing brace, as the items of a list are. -/
theorem readMembers_joined {outer : Nat} (nonempty : entries ≠ [])
    (exact_ : ∀ entry ∈ entries, Exact dialect entry.2)
    (reads : ∀ entry ∈ entries, ReadsBack dialect (prettyAt level entry.2).toList entry.2)
    (enough : (joined level (prettyEntries level entries)).length < fuel) :
    readMembers dialect fuel
        (joined level (prettyEntries level entries) ++ (lineGap outer ++ '\x7d' :: rest)) =
      some (entries, rest) := by
  induction entries generalizing fuel with
  | nil => contradiction
  | cons entry others inductionHypothesis =>
      obtain ⟨fuel, rfl⟩ : ∃ left, fuel = left + 1 := ⟨fuel - 1, by omega⟩
      obtain ⟨key, value⟩ := entry
      have exactFirst : Exact dialect value := exact_ (key, value) List.mem_cons_self
      have opensFirst := opens_prettyAt exactFirst level
      have readsFirst : ReadsBack dialect (prettyAt level value).toList value :=
        reads (key, value) List.mem_cons_self
      cases others with
      | nil =>
          have shape : joined level (prettyEntries level [(key, value)]) =
              keyText key ++ (prettyAt level value).toList :=
            (joined_singleton level _).trans (toList_entry level key value)
          rw [shape, List.length_append] at enough
          rw [shape, List.append_assoc]
          exact readMembers_last opensFirst readsFirst (by omega) outer rest
      | cons next more =>
          have shape : joined level (prettyEntries level ((key, value) :: next :: more)) =
              keyText key ++ (prettyAt level value).toList ++
                (separator level ++ joined level (prettyEntries level (next :: more))) := by
            rw [← toList_entry]
            exact joined_cons_cons level _ _ _
          rw [shape, List.length_append, List.length_append, List.length_append, separator,
            List.length_cons] at enough
          have opens : Opens (joined level (prettyEntries level (next :: more))) :=
            opens_joined (opens_entry level next.1 next.2) level _
          have goesOn : readMembers dialect fuel
              (joined level (prettyEntries level (next :: more)) ++
                (lineGap outer ++ '\x7d' :: rest)) = some (next :: more, rest) :=
            inductionHypothesis (List.cons_ne_nil _ _)
              (fun other among => exact_ other (List.mem_cons_of_mem _ among))
              (fun other among => reads other (List.mem_cons_of_mem _ among)) (by omega)
          rw [shape, List.append_assoc, List.append_assoc, List.append_assoc,
            readMembers_step opensFirst readsFirst (by omega) (opens.append _).solid, goesOn]
          rfl

/-! ### Values -/

theorem readValue_string (dialect : Dialect) (fuel : Nat) (text : String) (rest : List Char) :
    readValue dialect (fuel + 1) ((string text).toList ++ rest) = some (.str text, rest) := by
  rw [toList_string, List.cons_append, List.append_assoc]
  show readValue dialect (fuel + 1) ('"' :: (text.toList.flatMap escapeChar ++ '"' :: rest)) = _
  rw [readValue]
  simp only [readString_escaped]
  rfl

/-- What begins neither a text nor a list nor a mapping is a word or a number. -/
theorem readValue_plain (dialect : Dialect) (fuel : Nat) {c : Char} (rest : List Char)
    (noText : c ≠ '"') (noList : c ≠ '[') (noMap : c ≠ '\x7b') :
    readValue dialect (fuel + 1) (c :: rest) =
      (readWord dialect (c :: rest)).orElse fun _ => readNumber dialect (c :: rest) := by
  rw [readValue]
  · rintro _ same
    exact noText (List.cons.inj same).1
  · rintro _ same
    exact noList (List.cons.inj same).1
  · rintro _ same
    exact noMap (List.cons.inj same).1

theorem readValue_bool (dialect : Dialect) (fuel : Nat) (flag : Bool) (rest : List Char) :
    readValue dialect (fuel + 1) ((if flag then "true" else "false").toList ++ rest) =
      some (.bool flag, rest) := by
  have word : readWord dialect ((if flag then "true" else "false").toList ++ rest) =
      some (.bool flag, rest) :=
    readWord_bool flag rest
  cases flag with
  | false =>
      show readValue dialect (fuel + 1) ('f' :: 'a' :: 'l' :: 's' :: 'e' :: rest) = _
      rw [readValue_plain _ _ _ (by decide) (by decide) (by decide)]
      exact congrArg (Option.orElse · _) word
  | true =>
      show readValue dialect (fuel + 1) ('t' :: 'r' :: 'u' :: 'e' :: rest) = _
      rw [readValue_plain _ _ _ (by decide) (by decide) (by decide)]
      exact congrArg (Option.orElse · _) word

/-- Whether a word begins neither with a digit nor with a minus sign and a digit. -/
def isWordly (word : List Char) : Bool :=
  match word with
  | [] => false
  | '-' :: rest => !(rest.headD '0').isDigit
  | c :: _ => !c.isDigit

theorem isWordly_of_mem_words {entry : String × Value} (among : entry ∈ dialect.words) :
    isWordly entry.1.toList = true := by
  have known : ∀ entry ∈ standardWords ++ nonFiniteWords, isWordly entry.1.toList = true := by
    decide
  exact known entry (words_subset dialect among)

/-- No word stands where a number does. -/
theorem readWord_toString (number : Int) (rest : List Char) :
    readWord dialect ((toString number).toList ++ rest) = none := by
  obtain ⟨c, others, digits⟩ : ∃ c others, digitsOf number = c :: others :=
    List.exists_cons_of_ne_nil Nat.toDigits_ne_nil
  have digit : c.isDigit = true := isDigit_of_mem_digitsOf (digits ▸ List.mem_cons_self)
  apply List.findSome?_eq_none_iff.2
  rintro ⟨word, value⟩ among
  have wordly : isWordly word.toList = true := isWordly_of_mem_words among
  show (if word.toList.isPrefixOf ((toString number).toList ++ rest) then _ else none) = none
  rw [if_neg]
  rw [toList_toString, digits, List.isPrefixOf_iff_prefix]
  rintro ⟨more, same⟩
  unfold isWordly at wordly
  split at wordly
  · contradiction
  · rename_i behind shape
    rw [shape] at same
    split at same
    · -- Behind the sign of the number stands its first digit.
      cases behind with
      | nil => contradiction
      | cons d left =>
          obtain rfl : d = c := (List.cons.inj (List.cons.inj same).2).1
          rw [List.headD_cons, digit] at wordly
          contradiction
    · obtain rfl : '-' = c := (List.cons.inj same).1
      contradiction
  · rename_i d left noSign shape
    rw [shape] at same
    split at same
    · exact noSign (List.cons.inj same).1
    · obtain rfl : d = c := (List.cons.inj same).1
      rw [digit] at wordly
      contradiction

/-- A whole number is read, since no word stands where it does. -/
theorem readValue_int (fuel : Nat) {number : Int} (ends : endsNumber rest = true)
    (fits : dialect.admits (digitsOf number).length = true) :
    readValue dialect (fuel + 1) ((toString number).toList ++ rest) =
      some (.int number, rest) := by
  have word : readWord dialect ((toString number).toList ++ rest) = none :=
    readWord_toString number rest
  have read : readNumber dialect ((toString number).toList ++ rest) = some (.int number, rest) :=
    readNumber_toString ends fits
  obtain ⟨c, others, shape, first⟩ := exists_toString_cons number
  have noOpening : ∀ d ∈ ['"', '[', '\x7b'], c ≠ d := by
    rintro d among rfl
    simp only [List.mem_cons, List.not_mem_nil, or_false] at among
    rcases among with rfl | rfl | rfl
    · exact absurd first (by decide)
    · exact absurd first (by decide)
    · exact absurd first (by decide)
  rw [shape, List.cons_append] at word read ⊢
  rw [readValue_plain _ _ _ (noOpening _ (by simp)) (noOpening _ (by simp)) (noOpening _ (by simp)),
    word, read]
  rfl

/-- Behind an opening bracket there are items, unless the closing one follows. -/
theorem readValue_items (dialect : Dialect) (fuel : Nat) {inside : List Char}
    (passed : skipGap inside = text) (opens : Opens text) :
    readValue dialect (fuel + 1) ('[' :: inside) =
      (readItems dialect fuel text).map fun (items, left) => (.list items, left) := by
  obtain ⟨c, others, rfl, begins⟩ := opens
  rw [readValue, passed]
  split
  · rename_i same
    exact absurd (List.cons.inj same).1 begins.noBracket
  · rfl

/-- Behind an opening brace there are entries, unless the closing one follows. -/
theorem readValue_members (dialect : Dialect) (fuel : Nat) {inside : List Char}
    (passed : skipGap inside = text) (opens : Opens text) :
    readValue dialect (fuel + 1) ('\x7b' :: inside) =
      (readMembers dialect fuel text).map fun (pairs, left) =>
        (.map (Entries.ofPairs pairs), left) := by
  obtain ⟨c, others, rfl, begins⟩ := opens
  rw [readValue, passed]
  split
  · rename_i same
    exact absurd (List.cons.inj same).1 begins.noBrace
  · rfl

theorem readValue_list {level : Nat} (exact_ : ∀ item ∈ items, Exact dialect item)
    (reads : ∀ item ∈ items, ∀ level, ReadsBack dialect (prettyAt level item).toList item)
    (enough : (prettyAt level (.list items)).toList.length ≤ fuel + 1) :
    readValue dialect (fuel + 1) ((prettyAt level (.list items)).toList ++ rest) =
      some (.list items, rest) := by
  cases items with
  | nil =>
      rw [toList_prettyAt_nil]
      rfl
  | cons first others =>
      have shape : (prettyAt level (.list (first :: others))).toList = '[' ::
          (lineGap (level + 1) ++ (joined (level + 1) (prettyItems (level + 1) (first :: others)) ++
            (lineGap level ++ [']']))) :=
        toList_block (List.cons_ne_nil _ _) level "[" "]"
      rw [shape] at enough ⊢
      simp only [List.length_cons, List.length_append] at enough
      simp only [List.cons_append, List.append_assoc, List.nil_append]
      have opens : Opens (joined (level + 1) (prettyItems (level + 1) (first :: others)) ++
          (lineGap level ++ ']' :: rest)) :=
        (opens_joined (opens_prettyAt (exact_ first List.mem_cons_self) _) _ _).append _
      rw [readValue_items dialect fuel (skipGap_lineGap _ opens.solid) opens,
        readItems_joined (List.cons_ne_nil first others) exact_
          (fun item among => reads item among _) (by omega)]
      rfl

theorem readValue_map {level : Nat} (distinct : (Entries.keys entries).Nodup)
    (exact_ : ∀ entry ∈ entries, Exact dialect entry.2)
    (reads : ∀ entry ∈ entries, ∀ level,
      ReadsBack dialect (prettyAt level entry.2).toList entry.2)
    (enough : (prettyAt level (.map entries)).toList.length ≤ fuel + 1) :
    readValue dialect (fuel + 1) ((prettyAt level (.map entries)).toList ++ rest) =
      some (.map entries, rest) := by
  cases entries with
  | nil =>
      rw [toList_prettyAt_empty]
      rfl
  | cons first others =>
      have shape : (prettyAt level (.map (first :: others))).toList = '\x7b' ::
          (lineGap (level + 1) ++
            (joined (level + 1) (prettyEntries (level + 1) (first :: others)) ++
              (lineGap level ++ ['\x7d']))) :=
        toList_block (List.cons_ne_nil _ _) level "\x7b" "\x7d"
      rw [shape] at enough ⊢
      simp only [List.length_cons, List.length_append] at enough
      simp only [List.cons_append, List.append_assoc, List.nil_append]
      have opens : Opens (joined (level + 1) (prettyEntries (level + 1) (first :: others)) ++
          (lineGap level ++ '\x7d' :: rest)) :=
        (opens_joined (opens_entry _ first.1 first.2) _ _).append _
      rw [readValue_members dialect fuel (skipGap_lineGap _ opens.solid) opens,
        readMembers_joined (List.cons_ne_nil first others) exact_
          (fun entry among => reads entry among _) (by omega)]
      simp only [Option.map_some, Entries.ofPairs_eq_self distinct]

/-- The text of an exact value is not empty, so that it is read with one step of fuel at least. -/
theorem readsBack_of_step (exact_ : Exact dialect value) (level : Nat)
    (reads : ∀ fuel rest, (prettyAt level value).toList.length ≤ fuel + 1 →
      endsNumber rest = true →
      readValue dialect (fuel + 1) ((prettyAt level value).toList ++ rest) = some (value, rest)) :
    ReadsBack dialect (prettyAt level value).toList value := by
  intro fuel rest enough ends
  cases fuel with
  | zero =>
      obtain ⟨c, others, shape, _⟩ := opens_prettyAt exact_ level
      rw [shape] at enough
      contradiction
  | succ fuel => exact reads fuel rest enough ends

/-- An exact value is read back from its pretty form at any level. -/
theorem readsBack_prettyAt (exact_ : Exact dialect value) :
    ∀ level, ReadsBack dialect (prettyAt level value).toList value := by
  induction exact_ with
  | null =>
      intro level
      apply readsBack_of_step .null level
      intro fuel rest enough ends
      rw [toList_prettyAt_null]
      show readValue dialect (fuel + 1) ('n' :: 'u' :: 'l' :: 'l' :: rest) = _
      rw [readValue_plain _ _ _ (by decide) (by decide) (by decide), readWord_null]
      rfl
  | bool flag =>
      intro level
      apply readsBack_of_step (.bool flag) level
      intro fuel rest enough ends
      exact readValue_bool dialect fuel flag rest
  | int number fits =>
      intro level
      apply readsBack_of_step (.int number fits) level
      intro fuel rest enough ends
      exact readValue_int fuel ends fits
  | str text =>
      intro level
      apply readsBack_of_step (.str text) level
      intro fuel rest enough ends
      exact readValue_string dialect fuel text rest
  | list each inductionHypothesis =>
      intro level
      apply readsBack_of_step (.list each) level
      intro fuel rest enough ends
      exact readValue_list each inductionHypothesis enough
  | map distinct each inductionHypothesis =>
      intro level
      apply readsBack_of_step (.map distinct each) level
      intro fuel rest enough ends
      exact readValue_map distinct each inductionHypothesis enough

/-- The pretty form of an exact value is a document, and its value is this one. -/
theorem parseIn_pretty (exact_ : Exact dialect value) :
    parseIn dialect (pretty value) = some value := by
  have opens : Opens (pretty value).toList := opens_prettyAt exact_ 0
  have start : skipGap (pretty value).toList = (pretty value).toList :=
    skipGap_of_solid (List.forall_mem_nil _) opens.solid
  have read : readValue dialect ((pretty value).toList.length + 1) (pretty value).toList =
      some (value, []) := by
    have reads := readsBack_prettyAt exact_ 0 _ [] (Nat.le_succ _) rfl
    rw [List.append_nil] at reads
    exact reads
  unfold parseIn
  simp only [start, read]
  rfl

end Bindery.Json
