import Bindery.Value.Basic
import Mathlib.Data.List.Nodup

/-!
Contract: the keys of a mapping.

Owns:
- `Entries.keys`, and what giving a key a value does to them: nothing if the key is there, and one
  key more at the end if it is not;
- mappings with one entry for each key: a pair of theirs is what is found under its key, and
  building them from their pairs gives them back.
-/

namespace Bindery.Entries

variable {entries : Entries} {key other : String} {value : Value}

def keys (entries : Entries) : List String :=
  entries.map Prod.fst

@[simp]
theorem keys_nil : keys [] = [] := rfl

@[simp]
theorem keys_cons (entry : String × Value) (rest : Entries) :
    keys (entry :: rest) = entry.1 :: keys rest := rfl

@[simp]
theorem keys_append (left right : Entries) : keys (left ++ right) = keys left ++ keys right :=
  List.map_append

theorem find?_cons (name : String) (value : Value) (rest : Entries) (key : String) :
    find? ((name, value) :: rest) key = if name = key then some value else find? rest key := rfl

theorem find?_eq_none_iff : find? entries key = none ↔ key ∉ keys entries := by
  induction entries with
  | nil => simp [find?]
  | cons entry rest inductionHypothesis =>
      obtain ⟨name, value⟩ := entry
      rw [find?_cons, keys_cons, List.mem_cons, not_or, ← inductionHypothesis]
      split
      · rename_i same
        simp [same]
      · rename_i different
        exact (and_iff_right (Ne.symm different)).symm

/-- What is found under a key stands there with it. -/
theorem mem_of_find? (found : find? entries key = some value) : (key, value) ∈ entries := by
  induction entries with
  | nil => contradiction
  | cons entry rest inductionHypothesis =>
      obtain ⟨name, first⟩ := entry
      rw [find?_cons] at found
      split at found
      · rename_i same
        obtain rfl := Option.some.inj found
        rw [same]
        exact List.mem_cons_self
      · exact List.mem_cons_of_mem _ (inductionHypothesis found)

/-- With one entry for each key, an entry is what is found under its key. -/
theorem find?_of_mem (distinct : (keys entries).Nodup) (among : (key, value) ∈ entries) :
    find? entries key = some value := by
  induction entries with
  | nil => contradiction
  | cons entry rest inductionHypothesis =>
      obtain ⟨name, first⟩ := entry
      rw [keys_cons, List.nodup_cons] at distinct
      rw [find?_cons]
      rcases List.mem_cons.1 among with same | later
      · obtain ⟨rfl, rfl⟩ := Prod.mk.inj same
        rw [if_pos rfl]
      · have different : name ≠ key := by
          rintro rfl
          exact distinct.1 (List.mem_map.2 ⟨_, later, rfl⟩)
        rw [if_neg different]
        exact inductionHypothesis distinct.2 later

theorem set_of_notMem (absent : key ∉ keys entries) (value : Value) :
    set entries key value = entries ++ [(key, value)] := by
  induction entries with
  | nil => rfl
  | cons entry rest inductionHypothesis =>
      obtain ⟨name, old⟩ := entry
      rw [keys_cons, List.mem_cons, not_or] at absent
      unfold set
      rw [if_neg (Ne.symm absent.1), inductionHypothesis absent.2]
      rfl

theorem keys_set_of_mem (among : key ∈ keys entries) (value : Value) :
    keys (set entries key value) = keys entries := by
  induction entries with
  | nil => contradiction
  | cons entry rest inductionHypothesis =>
      obtain ⟨name, old⟩ := entry
      unfold set
      split
      · rfl
      · rename_i different
        rw [keys_cons, List.mem_cons] at among
        have later : key ∈ keys rest := among.resolve_left (Ne.symm different)
        rw [keys_cons, keys_cons, inductionHypothesis later]

/-- A key that is not there comes behind all others. -/
theorem keys_set (entries : Entries) (key : String) (value : Value) :
    keys (set entries key value) =
      if key ∈ keys entries then keys entries else keys entries ++ [key] := by
  split
  · rename_i among
    exact keys_set_of_mem among value
  · rename_i absent
    rw [set_of_notMem absent, keys_append]
    rfl

theorem nodup_keys_set (distinct : (keys entries).Nodup) (key : String) (value : Value) :
    (keys (set entries key value)).Nodup := by
  rw [keys_set]
  split
  · exact distinct
  · rename_i absent
    exact List.nodup_append.2 ⟨distinct, List.nodup_singleton key, by
      rintro name among _ same rfl
      rw [List.mem_singleton] at same
      exact absent (same ▸ among)⟩

/-- Pairs with new keys each come behind the others, in their order. -/
theorem foldl_set_of_nodup (pairs : List (String × Value)) (entries : Entries)
    (distinct : (keys (entries ++ pairs)).Nodup) :
    pairs.foldl (fun entries pair => set entries pair.1 pair.2) entries = entries ++ pairs := by
  induction pairs generalizing entries with
  | nil => exact (List.append_nil entries).symm
  | cons pair rest inductionHypothesis =>
      have absent : pair.1 ∉ keys entries := by
        intro among
        rw [keys_append, keys_cons] at distinct
        exact (List.disjoint_of_nodup_append distinct) among List.mem_cons_self
      rw [List.foldl_cons, set_of_notMem absent, inductionHypothesis]
      · simp
      · simpa using distinct

/-- Pairs with a key each are a mapping as they are. -/
theorem ofPairs_eq_self (distinct : (keys entries).Nodup) : ofPairs entries = entries :=
  foldl_set_of_nodup entries [] distinct

end Bindery.Entries
