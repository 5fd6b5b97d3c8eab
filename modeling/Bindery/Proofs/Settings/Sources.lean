import Bindery.Proofs.Json.Scalar
import Bindery.Proofs.Value.Overlay
import Bindery.Settings.Load

/-!
Contract: the sources of settings are trees with one entry for each key.

Owns:
- JSON, in which a key that comes again replaces the first;
- configuration files, in which nothing is said twice;
- the environment, which lays longer names over the JSON of a section.

Does **not** own: what the layers say together (`Bindery.Proofs.Settings.Precedence`).
-/

namespace Bindery

open Value Entries

variable {value : Value} {entries : Entries}

/-- A changed answer is the change of an answer. -/
theorem exists_of_map {ε α β : Type} {answer : Except ε α} {change : α → β} {changed : β}
    (mapped : answer.map change = .ok changed) :
    ∃ value, answer = .ok value ∧ change value = changed := by
  cases answer with
  | error issues => contradiction
  | ok value => exact ⟨value, rfl, Except.ok.inj mapped⟩

/-! ## JSON -/

namespace Json

variable {dialect : Dialect} {text left : List Char}

theorem noMap_of_readWord (read : readWord dialect text = some (value, left)) : value.NoMap := by
  obtain ⟨⟨word, meant⟩, among, taken⟩ := List.exists_of_findSome?_eq_some read
  dsimp only at taken
  have known : ∀ entry ∈ standardWords ++ nonFiniteWords, entry.2.NoMap := by
    unfold standardWords nonFiniteWords
    simp only [List.cons_append, List.nil_append, List.forall_mem_cons]
    exact ⟨nofun, nofun, nofun, nofun, nofun, nofun, nofun⟩
  split at taken
  · obtain ⟨rfl, _⟩ := Prod.mk.inj (Option.some.inj taken)
    exact known _ (words_subset dialect among)
  · contradiction

theorem noMap_of_readUnsigned {negative : Bool}
    (read : readUnsigned dialect negative text = some (value, left)) : value.NoMap := by
  unfold readUnsigned at read
  extract_lets run whole at read
  split at read
  · contradiction
  · split at read
    split at read
    split at read
    · split at read
      · obtain ⟨rfl, _⟩ := Prod.mk.inj (Option.some.inj read)
        exact nofun
      · contradiction
    · obtain ⟨rfl, _⟩ := Prod.mk.inj (Option.some.inj read)
      exact nofun

theorem noMap_of_readNumber (read : readNumber dialect text = some (value, left)) :
    value.NoMap := by
  unfold readNumber at read
  split at read <;> exact noMap_of_readUnsigned read

/-- A value is keyed if all members that can be read with less fuel are. -/
theorem keyedOnce_of_readValue {fuel : Nat}
    (ofMembers : ∀ text pairs left, readMembers dialect fuel text = some (pairs, left) →
      ∀ pair ∈ pairs, KeyedOnce pair.2)
    (read : readValue dialect (fuel + 1) text = some (value, left)) : KeyedOnce value := by
  unfold readValue at read
  dsimp only at read
  split at read
  · obtain ⟨_, _, same⟩ := Option.map_eq_some_iff.1 read
    obtain ⟨rfl, _⟩ := Prod.mk.inj same
    exact .leaf nofun
  · split at read
    · obtain ⟨rfl, _⟩ := Prod.mk.inj (Option.some.inj read)
      exact .leaf nofun
    · obtain ⟨_, _, same⟩ := Option.map_eq_some_iff.1 read
      obtain ⟨rfl, _⟩ := Prod.mk.inj same
      exact .leaf nofun
  · split at read
    · obtain ⟨rfl, _⟩ := Prod.mk.inj (Option.some.inj read)
      exact keyedOnce_nil
    · obtain ⟨⟨pairs, rest⟩, members, same⟩ := Option.map_eq_some_iff.1 read
      obtain ⟨rfl, _⟩ := Prod.mk.inj same
      exact keyedOnce_ofPairs (ofMembers _ _ _ members)
  · cases word : readWord dialect text with
    | none =>
        rw [word] at read
        exact .leaf (noMap_of_readNumber read)
    | some reading =>
        rw [word] at read
        exact .leaf (noMap_of_readWord (word.trans read))

/-- So are members if the first value is, and the members behind it. -/
theorem keyedOnce_of_readMembers {fuel : Nat} {pairs : List (String × Value)}
    (ofValue : ∀ text value left, readValue dialect fuel text = some (value, left) →
      KeyedOnce value)
    (ofMembers : ∀ text pairs left, readMembers dialect fuel text = some (pairs, left) →
      ∀ pair ∈ pairs, KeyedOnce pair.2)
    (read : readMembers dialect (fuel + 1) text = some (pairs, left)) :
    ∀ pair ∈ pairs, KeyedOnce pair.2 := by
  unfold readMembers at read
  dsimp only at read
  split at read
  · split at read
    · contradiction
    · split at read
      · split at read
        · contradiction
        · rename_i value rest readFirst
          have first : KeyedOnce value := ofValue _ _ _ readFirst
          split at read
          · obtain ⟨rfl, _⟩ := Prod.mk.inj (Option.some.inj read)
            exact List.forall_mem_singleton.2 first
          · obtain ⟨⟨others, behind⟩, more, same⟩ := Option.map_eq_some_iff.1 read
            obtain ⟨rfl, _⟩ := Prod.mk.inj same
            exact List.forall_mem_cons.2 ⟨first, ofMembers _ _ _ more⟩
          · contradiction
      · contradiction
  · contradiction

/-- What is read has one entry for each key, as do the values of the members of a mapping. The
induction is on the fuel, for values and members at once. -/
theorem keyedOnce_of_read (dialect : Dialect) (fuel : Nat) :
    (∀ text value left, readValue dialect fuel text = some (value, left) → KeyedOnce value) ∧
      (∀ text pairs left, readMembers dialect fuel text = some (pairs, left) →
        ∀ pair ∈ pairs, KeyedOnce pair.2) := by
  induction fuel with
  | zero => exact ⟨nofun, nofun⟩
  | succ fuel inductionHypothesis =>
      obtain ⟨ofValue, ofMembers⟩ := inductionHypothesis
      exact ⟨fun _ _ _ read => keyedOnce_of_readValue ofMembers read,
        fun _ _ _ read => keyedOnce_of_readMembers ofValue ofMembers read⟩

theorem keyedOnce_of_parse {text : String} (read : parse? text = some value) :
    KeyedOnce value := by
  unfold parse? parseIn at read
  dsimp only at read
  split at read
  · rename_i found left readWhole
    split at read
    · obtain rfl := Option.some.inj read
      exact (keyedOnce_of_read _ _).1 _ _ _ readWhole
    · contradiction
  · contradiction

end Json

/-! ## Configuration files -/

namespace Toml

variable {text left : List Char}

theorem noMap_of_readBased (read : readBased text = some (value, left)) : value.NoMap := by
  unfold readBased at read
  split at read
  · extract_lets shape at read
    clear_value shape
    split at read
    · contradiction
    · split at read
      split at read
      · contradiction
      · obtain ⟨rfl, _⟩ := Prod.mk.inj (Option.some.inj read)
        exact nofun
  · contradiction

theorem noMap_of_readDecimal (read : readDecimal text = some (value, left)) : value.NoMap := by
  unfold readDecimal at read
  dsimp only at read
  split at read
  all_goals
    split at read
    · contradiction
    · split at read
      all_goals
        obtain ⟨rfl, _⟩ := Prod.mk.inj (Option.some.inj read)
        rintro _ ⟨⟩

theorem noMap_of_readSpecial (read : readSpecial text = some (value, left)) : value.NoMap := by
  obtain ⟨⟨word, number⟩, _, taken⟩ := List.exists_of_findSome?_eq_some read
  dsimp only at taken
  split at taken
  · obtain ⟨rfl, _⟩ := Prod.mk.inj (Option.some.inj taken)
    exact nofun
  · contradiction

theorem noMap_of_readMoment (read : readMoment text = some (some (value, left))) :
    value.NoMap := by
  unfold readMoment at read
  split at read
  · obtain ⟨_, _, same⟩ := Option.map_eq_some_iff.1 read
    obtain ⟨rfl, _⟩ := Prod.mk.inj (Option.some.inj same)
    exact nofun
  · extract_lets rest at read
    split at read
    · obtain ⟨rfl, _⟩ := Prod.mk.inj (Option.some.inj (Option.some.inj read))
      exact nofun
    · exact absurd (Option.some.inj read) nofun

theorem of_orMalformed {α : Type} {answer : Option α} {given : α}
    (answered : orMalformed answer = .ok given) : answer = some given := by
  cases answer with
  | none => contradiction
  | some other => exact congrArg some (Except.ok.inj answered)

theorem noMap_of_readDecimal_orElse
    (read : (readDecimal text).orElse (fun _ => readSpecial text) = some (value, left)) :
    value.NoMap := by
  cases decimal : readDecimal text with
  | none =>
      rw [decimal] at read
      exact noMap_of_readSpecial read
  | some other =>
      rw [decimal] at read
      exact noMap_of_readDecimal (decimal.trans read)

theorem noMap_of_readLimitedDecimal (read : readLimitedDecimal text = .ok (value, left)) :
    value.NoMap := by
  unfold readLimitedDecimal at read
  cases number : (readDecimal text).orElse fun _ => readSpecial text with
  | none =>
      rw [number] at read
      contradiction
  | some reading =>
      obtain ⟨found, rest⟩ := reading
      rw [number] at read
      have plain : found.NoMap := noMap_of_readDecimal_orElse number
      cases found with
      | int whole =>
          dsimp only [orMalformed, bind, Except.bind] at read
          split at read
          · contradiction
          · obtain ⟨rfl, _⟩ := Prod.mk.inj (Except.ok.inj read)
            exact plain
      | _ =>
          obtain ⟨rfl, _⟩ := Prod.mk.inj (Except.ok.inj read)
          exact plain

theorem noMap_of_readScalar (read : readScalar text = .ok (value, left)) : value.NoMap := by
  unfold readScalar at read
  split at read
  · obtain ⟨rfl, _⟩ := Prod.mk.inj (Except.ok.inj read)
    exact nofun
  · split at read
    · obtain ⟨rfl, _⟩ := Prod.mk.inj (Except.ok.inj read)
      exact nofun
    · split at read
      · rename_i moment
        exact noMap_of_readMoment (moment.trans (congrArg some (of_orMalformed read)))
      · split at read
        · rename_i based
          exact noMap_of_readBased (based.trans (congrArg some (Except.ok.inj read)))
        · exact noMap_of_readLimitedDecimal read

/-- A change of a table that keeps one entry for each key. -/
def Keeps (change : Entries → Option Entries) : Prop :=
  ∀ before after, KeyedOnce (.map before) → change before = some after → KeyedOnce (.map after)

theorem keeps_addEntry {name : String} (once : KeyedOnce value) : Keeps (addEntry name value) := by
  intro before after keyed changed
  unfold addEntry at changed
  split at changed
  · contradiction
  · obtain rfl := Option.some.inj changed
    exact keyed.set name once

theorem keeps_addTable (name : String) : Keeps (addTable name) := by
  intro before after keyed changed
  unfold addTable at changed
  split at changed
  · obtain rfl := Option.some.inj changed
    exact keyed.set name (.leaf nofun)
  · obtain rfl := Option.some.inj changed
    exact keyed.set name (.leaf nofun)
  · contradiction

/-- What changes the table at the end of a key changes the whole tree alike. The induction is on the
key. -/
theorem keeps_changeTable {intoArrays : Bool} {change : Entries → Option Entries}
    (keeps : Keeps change) (key : Key) : Keeps (changeTable intoArrays change key) := by
  induction key with
  | nil => exact keeps
  | cons name rest inductionHypothesis =>
      intro before after keyed changed
      unfold changeTable at changed
      split at changed
      · obtain ⟨inner, made, rfl⟩ := Option.map_eq_some_iff.1 changed
        exact keyed.set name (inductionHypothesis _ _ keyedOnce_nil made)
      · rename_i found
        obtain ⟨inner, made, rfl⟩ := Option.map_eq_some_iff.1 changed
        exact keyed.set name (inductionHypothesis _ _ (keyed.found found) made)
      · split at changed
        · split at changed
          · obtain ⟨inner, made, rfl⟩ := Option.map_eq_some_iff.1 changed
            exact keyed.set name (.leaf nofun)
          · contradiction
        · contradiction
      · contradiction

/-- A value is keyed if all tables that can be read with less fuel are. -/
theorem keyedOnce_of_readValue {fuel : Nat}
    (ofMembers : ∀ closed before text after left, KeyedOnce (.map before) →
      readMembers fuel closed before text = .ok (after, left) → KeyedOnce (.map after))
    (read : readValue (fuel + 1) text = .ok (value, left)) : KeyedOnce value := by
  unfold readValue at read
  split at read
  · contradiction
  · split at read
    · obtain ⟨_, _, same⟩ := exists_of_map read
      obtain ⟨rfl, _⟩ := Prod.mk.inj same
      exact .leaf nofun
    · split at read
      · split at read
        · contradiction
        · obtain ⟨rfl, _⟩ := Prod.mk.inj (Except.ok.inj read)
          exact .leaf nofun
        · obtain ⟨_, _, same⟩ := exists_of_map read
          obtain ⟨rfl, _⟩ := Prod.mk.inj same
          exact .leaf nofun
      · split at read
        · split at read
          · obtain ⟨rfl, _⟩ := Prod.mk.inj (Except.ok.inj read)
            exact keyedOnce_nil
          · obtain ⟨⟨entries, rest⟩, members, same⟩ := exists_of_map read
            obtain ⟨rfl, _⟩ := Prod.mk.inj same
            exact ofMembers _ _ _ _ _ keyedOnce_nil members
        · exact .leaf (noMap_of_readScalar read)

/-- A table stays keyed when its next member, and those behind it, are added. -/
theorem keyedOnce_of_readMembers {fuel : Nat} {closed : List Key} {before after : Entries}
    (ofValue : ∀ text value left, readValue fuel text = .ok (value, left) → KeyedOnce value)
    (ofMembers : ∀ closed before text after left, KeyedOnce (.map before) →
      readMembers fuel closed before text = .ok (after, left) → KeyedOnce (.map after))
    (keyed : KeyedOnce (.map before))
    (read : readMembers (fuel + 1) closed before text = .ok (after, left)) :
    KeyedOnce (.map after) := by
  unfold readMembers at read
  split at read
  · split at read
    · contradiction
    · rename_i value rest readFirst
      have first : KeyedOnce value := ofValue _ _ _ readFirst
      extract_lets added at read
      cases became : added with
      | none =>
          rw [became] at read
          contradiction
      | some entries =>
          have keyedThen : KeyedOnce (.map entries) := by
            unfold added at became
            split at became
            · contradiction
            · exact keeps_changeTable (keeps_addEntry first) _ _ _ keyed became
          rw [became] at read
          dsimp only at read
          split at read
          · obtain ⟨rfl, _⟩ := Prod.mk.inj (Except.ok.inj read)
            exact keyedThen
          · exact ofMembers _ _ _ _ _ keyedThen read
          · contradiction
  · contradiction

/-- What is read has one entry for each key. The induction is on the fuel, for values and for the
tables on one line at once. -/
theorem keyedOnce_of_read (fuel : Nat) :
    (∀ text value left, readValue fuel text = .ok (value, left) → KeyedOnce value) ∧
      (∀ closed before text after left, KeyedOnce (.map before) →
        readMembers fuel closed before text = .ok (after, left) → KeyedOnce (.map after)) := by
  induction fuel with
  | zero => exact ⟨nofun, nofun⟩
  | succ fuel inductionHypothesis =>
      obtain ⟨ofValue, ofMembers⟩ := inductionHypothesis
      exact ⟨fun _ _ _ read => keyedOnce_of_readValue ofMembers read,
        fun _ _ _ _ _ keyed read => keyedOnce_of_readMembers ofValue ofMembers keyed read⟩

/-- A draft whose entries have one place for each key. -/
def Draft.IsKeyed (draft : Draft) : Prop :=
  KeyedOnce (.map draft.entries)

variable {draft next : Draft}

theorem Draft.IsKeyed.openTable (keyed : draft.IsKeyed) {key : Key}
    (opened : draft.openTable key = some next) : next.IsKeyed := by
  unfold Draft.openTable at opened
  split at opened
  · contradiction
  · obtain ⟨entries, changed, rfl⟩ := Option.map_eq_some_iff.1 opened
    have keeps : Keeps some := by
      rintro before after once same
      obtain rfl := Option.some.inj same
      exact once
    exact keeps_changeTable keeps key _ _ keyed changed

theorem Draft.IsKeyed.openArrayTable (keyed : draft.IsKeyed) {key : Key}
    (opened : draft.openArrayTable key = some next) : next.IsKeyed := by
  unfold Draft.openArrayTable at opened
  split at opened
  · contradiction
  · obtain ⟨entries, changed, rfl⟩ := Option.map_eq_some_iff.1 opened
    exact keeps_changeTable (keeps_addTable _) _ _ _ keyed changed

theorem Draft.IsKeyed.add (keyed : draft.IsKeyed) {key : Key} (once : KeyedOnce value)
    (added : draft.add key value = some next) : next.IsKeyed := by
  unfold Draft.add at added
  extract_lets tables parent at added
  split at added
  · contradiction
  · obtain ⟨entries, changed, rfl⟩ := Option.map_eq_some_iff.1 added
    exact keeps_changeTable (keeps_addEntry once) _ _ _ keyed changed

/-- A statement keeps one entry for each key. -/
theorem Draft.IsKeyed.readStatement (keyed : draft.IsKeyed)
    (read : readStatement draft text = .ok (next, left)) : next.IsKeyed := by
  unfold Toml.readStatement at read
  split at read
  · split at read
    · obtain ⟨made, opened, same⟩ := exists_of_map read
      obtain ⟨rfl, _⟩ := Prod.mk.inj same
      have settled : draft.settle.IsKeyed := keyed
      exact settled.openArrayTable (of_orMalformed opened)
    · contradiction
  · split at read
    · obtain ⟨made, opened, same⟩ := exists_of_map read
      obtain ⟨rfl, _⟩ := Prod.mk.inj same
      have settled : draft.settle.IsKeyed := keyed
      exact settled.openTable (of_orMalformed opened)
    · contradiction
  · split at read
    · rename_i key rest _
      extract_lets body at read
      cases given : readValue (body.length + 1) body with
      | error fault =>
          rw [given] at read
          contradiction
      | ok reading =>
          obtain ⟨value, behind⟩ := reading
          rw [given] at read
          change (orMalformed (draft.add key value) >>= _) = _ at read
          cases added : orMalformed (draft.add key value) with
          | error fault =>
              rw [added] at read
              contradiction
          | ok made =>
              rw [added] at read
              obtain ⟨rfl, _⟩ := Prod.mk.inj (Except.ok.inj read)
              have once : KeyedOnce value := (keyedOnce_of_read _).1 _ _ _ given
              exact keyed.add once (of_orMalformed added)
    · contradiction

/-- The statements of a document keep one entry for each key. The induction is on the fuel. -/
theorem Draft.IsKeyed.readStatements (keyed : draft.IsKeyed) {fuel : Nat}
    (read : readStatements fuel draft text = .ok next) : next.IsKeyed := by
  induction fuel generalizing draft text with
  | zero =>
      obtain rfl := Except.ok.inj read
      exact keyed
  | succ fuel inductionHypothesis =>
      unfold Toml.readStatements at read
      split at read
      · obtain rfl := Except.ok.inj read
        exact keyed
      · exact inductionHypothesis keyed read
      · split at read
        · contradiction
        · rename_i middle left answered
          have keyedThen : middle.IsKeyed := by
            split at answered
            · obtain ⟨rfl, _⟩ := Prod.mk.inj (Except.ok.inj answered)
              exact keyed
            · exact keyed.readStatement answered
          split at read
          · obtain rfl := Except.ok.inj read
            exact keyedThen
          · exact inductionHypothesis keyedThen read
          · contradiction

/-- A configuration file is a tree with one entry for each key. -/
theorem keyedOnce_of_readDocument {text : String} (answered : read text = .ok entries) :
    KeyedOnce (.map entries) := by
  obtain ⟨draft, statements, rfl⟩ := exists_of_map answered
  have blank : (Draft.mk [] [] [] [] []).IsKeyed := keyedOnce_nil
  exact blank.readStatements statements

end Toml

/-! ## The environment -/

namespace Settings.Environment

variable {given : Entries} {section_ : String}

theorem keyedOnce_setAt (once : KeyedOnce value) (path : List String)
    (keyed : KeyedOnce (.map entries)) : KeyedOnce (.map (setAt value path entries)) := by
  induction path generalizing entries with
  | nil => exact keyed
  | cons key rest inductionHypothesis =>
      cases rest with
      | nil => exact keyed.set key once
      | cons next more =>
          unfold setAt
          split
          · exact keyed.set key (inductionHypothesis keyedOnce_nil)
          · rename_i found
            exact keyed.set key (inductionHypothesis (keyed.found found))
          · exact keyed

theorem keyedOnce_of_valueInside {path : List String} {text : String}
    (taken : valueInside section_ path text = some value) : KeyedOnce value := by
  unfold valueInside at taken
  split at taken
  · exact Json.keyedOnce_of_parse taken
  · obtain rfl := Option.some.inj taken
    exact .leaf nofun

/-- What each step keeps, all steps keep. -/
theorem of_foldlM {α β : Type} {Holds : β → Prop} {step : β → α → Option β}
    (keeps : ∀ before item after, Holds before → step before item = some after → Holds after)
    {items : List α} {before after : β} (start : Holds before)
    (ran : items.foldlM step before = some after) : Holds after := by
  induction items generalizing before with
  | nil =>
      obtain rfl := Option.some.inj ran
      exact start
  | cons item rest inductionHypothesis =>
      rw [List.foldlM_cons] at ran
      obtain ⟨middle, one, others⟩ := Option.bind_eq_some_iff.1 ran
      exact inductionHypothesis (keeps before item middle start one) others

/-- One variable after another is put into a section. -/
theorem keyedOnce_of_nested (taken : nested section_ given = some entries) :
    KeyedOnce (.map entries) := by
  refine @of_foldlM _ _ (fun entries : Entries => KeyedOnce (.map entries)) _ ?_ _ _ _
    keyedOnce_nil taken
  rintro before ⟨name, text⟩ after keyed one
  dsimp only at one
  split at one
  · obtain ⟨value, inside, rfl⟩ := Option.map_eq_some_iff.1 one
    exact keyedOnce_setAt (keyedOnce_of_valueInside inside) _ keyed
  · obtain rfl := Option.some.inj one
    exact keyed

theorem keyedOnce_spellKeys (keyed : KeyedOnce (.map entries)) :
    KeyedOnce (.map (spellKeys section_ entries)) := by
  apply keyedOnce_ofPairs
  intro pair among
  obtain ⟨⟨key, value⟩, member, rfl⟩ := List.mem_map.1 among
  have once := keyed.each member
  exact once

theorem keyedOnce_of_sectionValue (taken : sectionValue given section_ = some (some value)) :
    KeyedOnce value := by
  unfold sectionValue at taken
  split at taken
  · obtain ⟨entries, inside, same⟩ := Option.map_eq_some_iff.1 taken
    split at same
    · contradiction
    · obtain rfl := Option.some.inj same
      exact keyedOnce_spellKeys (keyedOnce_of_nested inside)
  · split at taken
    · contradiction
    · exact absurd (Option.some.inj taken) nofun
    · rename_i whole
      obtain ⟨inner, inside, same⟩ := Option.map_eq_some_iff.1 taken
      obtain rfl := Option.some.inj same
      have both := (keyedOnce_of_nested inside).overlay (Json.keyedOnce_of_parse whole)
      exact keyedOnce_spellKeys both
    · rename_i whole
      obtain rfl := Option.some.inj (Option.some.inj taken)
      exact Json.keyedOnce_of_parse whole

/-- The sections that are given keep their order, and each is a tree of its own. -/
theorem keyedOnce_of_sectionEntries {sections : List String}
    (answered : sectionEntries given sections = .ok entries) :
    (keys entries).Sublist sections ∧ ∀ entry ∈ entries, KeyedOnce entry.2 := by
  induction sections generalizing entries with
  | nil =>
      obtain rfl := Except.ok.inj answered
      exact ⟨.slnil, List.forall_mem_nil _⟩
  | cons section_ rest inductionHypothesis =>
      unfold sectionEntries at answered
      split at answered
      · contradiction
      · rename_i found taken
        obtain ⟨others, remaining, same⟩ := exists_of_map answered
        obtain ⟨ordered, each⟩ := inductionHypothesis remaining
        split at same
        · subst same
          exact ⟨ordered.cons section_, each⟩
        · subst same
          exact ⟨ordered.cons_cons section_,
            List.forall_mem_cons.2 ⟨keyedOnce_of_sectionValue taken, each⟩⟩

theorem keys_switchEntries_sublist (given : Entries) :
    (keys (switchEntries given)).Sublist switchKeys := by
  unfold switchEntries
  induction switchKeys with
  | nil => exact .slnil
  | cons key rest inductionHypothesis =>
      rw [List.filterMap_cons]
      split
      · exact inductionHypothesis.cons key
      · rename_i entry taken
        obtain ⟨text, _, rfl⟩ := Option.map_eq_some_iff.1 taken
        exact inductionHypothesis.cons_cons key

/-- What the environment gives is a tree with one entry for each key. -/
theorem keyedOnce_of_read {environment : List (String × String)}
    (answered : read environment = .ok entries) : KeyedOnce (.map entries) := by
  obtain ⟨sections, taken, rfl⟩ := exists_of_map answered
  obtain ⟨ordered, each⟩ := keyedOnce_of_sectionEntries taken
  have known : (switchKeys ++ sectionKeys).Nodup := by decide
  constructor
  · rw [keys_append]
    exact ((keys_switchEntries_sublist _).append ordered).nodup known
  · intro entry among
    rcases List.mem_append.1 among with switch | section_
    · obtain ⟨key, _, taken⟩ := List.mem_filterMap.1 switch
      obtain ⟨text, _, rfl⟩ := Option.map_eq_some_iff.1 taken
      exact .leaf nofun
    · exact each entry section_

end Settings.Environment

end Bindery
