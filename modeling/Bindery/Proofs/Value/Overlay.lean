import Bindery.Proofs.Value.Entries
import Bindery.Value.Merge

/-!
Contract: what a tree says when others were laid over it.

Owns:
- `KeyedOnce`, the values in which a path of keys leads to one place, and that building mappings and
  laying them over each other keeps this;
- what is found under a key of two mappings laid over each other, and the order of their keys;
- `valueAt`, the value that a path of keys leads to: over several layers it is the first one given,
  and the keys of a table are those of the layers one after another.

Does **not** own: which layers settings have (`Bindery.Proofs.Settings.Precedence`).

## What stands in the way

A value that is no mapping hides what lower layers say about keys below it. `IsOpen` says of a path
that no such value is left in the whole tree before the end of the path. A value of this kind in a
layer between two mappings is not in the whole tree, and hides nothing.
-/

namespace Bindery

open Entries

variable {entries lower upper : Entries} {key : String} {value : Value}

theorem Entries.mem_of_mem_set {entry : String × Value} (among : entry ∈ set entries key value) :
    entry ∈ entries ∨ entry.2 = value := by
  induction entries with
  | nil =>
      obtain rfl := List.mem_singleton.1 among
      exact .inr rfl
  | cons first rest inductionHypothesis =>
      obtain ⟨name, old⟩ := first
      unfold set at among
      split at among
      · rcases List.mem_cons.1 among with rfl | later
        · exact .inr rfl
        · exact .inl (List.mem_cons_of_mem _ later)
      · rcases List.mem_cons.1 among with rfl | later
        · exact .inl List.mem_cons_self
        · exact (inductionHypothesis later).imp_left (List.mem_cons_of_mem _)

namespace Value

/-! ## One entry for each key -/

/-- Values below which there are no keys. -/
def NoMap (value : Value) : Prop :=
  ∀ entries, value ≠ .map entries

/-- Values in which every mapping that keys lead to has one entry for each key. Keys do not lead
into lists. -/
inductive KeyedOnce : Value → Prop
  | map {entries : Entries} (distinct : (keys entries).Nodup)
      (each : ∀ entry ∈ entries, KeyedOnce entry.2) : KeyedOnce (.map entries)
  | leaf {value : Value} (noMap : value.NoMap) : KeyedOnce value

theorem KeyedOnce.distinct (keyed : KeyedOnce (.map entries)) : (keys entries).Nodup := by
  cases keyed with
  | map distinct each => exact distinct
  | leaf noMap => exact absurd rfl (noMap entries)

theorem KeyedOnce.each (keyed : KeyedOnce (.map entries)) {entry : String × Value}
    (among : entry ∈ entries) : KeyedOnce entry.2 := by
  cases keyed with
  | map distinct each => exact each entry among
  | leaf noMap => exact absurd rfl (noMap entries)

theorem KeyedOnce.found (keyed : KeyedOnce (.map entries))
    (found : find? entries key = some value) : KeyedOnce value :=
  keyed.each (mem_of_find? found)

theorem keyedOnce_nil : KeyedOnce (.map []) :=
  .map List.nodup_nil (List.forall_mem_nil _)

theorem KeyedOnce.set (keyed : KeyedOnce (.map entries)) (key : String) (once : KeyedOnce value) :
    KeyedOnce (.map (set entries key value)) := by
  refine .map (nodup_keys_set keyed.distinct key value) fun entry among => ?_
  rcases mem_of_mem_set among with old | rfl
  · exact keyed.each old
  · exact once

theorem keyedOnce_ofPairs {pairs : List (String × Value)}
    (each : ∀ pair ∈ pairs, KeyedOnce pair.2) : KeyedOnce (.map (ofPairs pairs)) := by
  have grows : ∀ entries : Entries, KeyedOnce (.map entries) →
      KeyedOnce (.map (pairs.foldl (fun entries pair => Entries.set entries pair.1 pair.2)
        entries)) := by
    induction pairs with
    | nil => exact fun entries keyed => keyed
    | cons pair rest inductionHypothesis =>
        intro entries keyed
        exact inductionHypothesis (fun other among => each other (List.mem_cons_of_mem _ among)) _
          (keyed.set pair.1 (each pair List.mem_cons_self))
  exact grows [] keyedOnce_nil

/-- What one entry of the upper mapping becomes. -/
def merged (lower : Entries) (key : String) (value : Value) : Value :=
  match find? lower key with
  | some old => overlay old value
  | none => value

theorem overlayEntries_cons (lower : Entries) (key : String) (value : Value)
    (rest : List (String × Value)) :
    overlayEntries lower ((key, value) :: rest) =
      overlayEntries (Entries.set lower key (merged lower key value)) rest := rfl

theorem overlay_map_map (lower upper : Entries) :
    overlay (.map lower) (.map upper) = .map (overlayEntries lower upper) := rfl

theorem overlay_of_noMap (upper : Value) (noMap : value.NoMap) :
    overlay value upper = upper := by
  unfold overlay
  split
  · split
    · exact absurd rfl (noMap _)
    · rfl
  · rfl

/-- A value that is no mapping replaces whatever it is laid over. -/
theorem overlay_noMap (lower : Value) (noMap : value.NoMap) :
    overlay lower value = value := by
  unfold overlay
  split
  · exact absurd rfl (noMap _)
  · rfl

theorem eq_map_or_noMap (value : Value) :
    (∃ entries, value = .map entries) ∨ value.NoMap := by
  cases value with
  | map entries => exact .inl ⟨entries, rfl⟩
  | _ => exact .inr nofun

/-- Laying one tree over another keeps one entry for each key. The induction is on the upper tree,
and inside it on the entries of a mapping. -/
theorem KeyedOnce.overlay {lower upper : Value} (upperOnce : KeyedOnce upper)
    (lowerOnce : KeyedOnce lower) : KeyedOnce (overlay lower upper) := by
  induction upperOnce generalizing lower with
  | leaf noMap =>
      rw [overlay_noMap lower noMap]
      exact .leaf noMap
  | @map upper distinct each inductionHypothesis =>
      rcases eq_map_or_noMap lower with ⟨entries, rfl⟩ | noMap
      · clear distinct
        rw [overlay_map_map]
        induction upper generalizing entries with
        | nil =>
            rw [overlayEntries_nil]
            exact lowerOnce
        | cons entry rest further =>
            obtain ⟨name, value⟩ := entry
            have mergedOnce : KeyedOnce (merged entries name value) := by
              unfold merged
              split
              · rename_i old found
                exact inductionHypothesis (name, value) List.mem_cons_self (lowerOnce.found found)
              · exact each (name, value) List.mem_cons_self
            rw [overlayEntries_cons]
            exact further (fun other among => each other (List.mem_cons_of_mem _ among))
              (fun other among => inductionHypothesis other (List.mem_cons_of_mem _ among)) _
              (lowerOnce.set name mergedOnce)
      · rw [overlay_of_noMap _ noMap]
        exact .map distinct each

theorem KeyedOnce.overlayAll {layers : List Entries}
    (each : ∀ layer ∈ layers, KeyedOnce (.map layer)) : KeyedOnce (.map (overlayAll layers)) := by
  induction layers with
  | nil => exact keyedOnce_nil
  | cons layer above inductionHypothesis =>
      have rest := inductionHypothesis fun other among => each other (List.mem_cons_of_mem _ among)
      exact rest.overlay (each layer List.mem_cons_self)

/-! ## Two mappings -/

/-- What is there when one thing that may be there is laid over another. -/
def covered : (lower upper : Option Value) → Option Value
  | lower, none => lower
  | none, some value => some value
  | some old, some value => some (overlay old value)

theorem covered_none (lower : Option Value) : covered lower none = lower := by
  cases lower <;> rfl

theorem none_covered (upper : Option Value) : covered none upper = upper := by
  cases upper <;> rfl

theorem covered_some_noMap (lower : Option Value) (noMap : value.NoMap) :
    covered lower (some value) = some value := by
  cases lower with
  | none => rfl
  | some old => exact congrArg some (overlay_noMap old noMap)

theorem covered_some_map (lower : Option Value) (upper : Entries) :
    ∃ entries, covered lower (some (.map upper)) = some (.map entries) := by
  cases lower with
  | none => exact ⟨upper, rfl⟩
  | some old =>
      rcases eq_map_or_noMap old with ⟨entries, rfl⟩ | noMap
      · exact ⟨_, rfl⟩
      · exact ⟨upper, congrArg some (overlay_of_noMap _ noMap)⟩

/-- Under a key stands what the upper mapping has there, laid over what the lower one has. -/
theorem find?_overlayEntries (distinct : (keys upper).Nodup) (lower : Entries) (key : String) :
    find? (overlayEntries lower upper) key = covered (find? lower key) (find? upper key) := by
  induction upper generalizing lower with
  | nil => exact (congrArg (find? · key) (overlayEntries_nil lower)).trans (covered_none _).symm
  | cons entry rest inductionHypothesis =>
      obtain ⟨name, value⟩ := entry
      rw [keys_cons, List.nodup_cons] at distinct
      rw [overlayEntries_cons, inductionHypothesis distinct.2, find?_cons]
      by_cases same : name = key
      · subst same
        rw [if_pos rfl, find?_set_self, find?_eq_none_iff.2 distinct.1, covered_none]
        unfold merged
        cases find? lower name <;> rfl
      · rw [if_neg same, find?_set_of_ne _ _ (Ne.symm same)]

/-- The keys of the upper mapping that the lower one does not have come behind its own. -/
theorem keys_overlayEntries (distinct : (keys upper).Nodup) (lower : Entries) :
    keys (overlayEntries lower upper) =
      keys lower ++ (keys upper).filter (decide <| · ∉ keys lower) := by
  induction upper generalizing lower with
  | nil =>
      rw [overlayEntries_nil]
      exact (List.append_nil _).symm
  | cons entry rest inductionHypothesis =>
      obtain ⟨name, value⟩ := entry
      rw [keys_cons, List.nodup_cons] at distinct
      rw [overlayEntries_cons, inductionHypothesis distinct.2, keys_set, keys_cons,
        List.filter_cons]
      by_cases known : name ∈ keys lower
      · rw [if_pos known, if_neg (by simp [known])]
      · have others : (keys rest).filter (decide <| · ∉ keys lower ++ [name]) =
            (keys rest).filter (decide <| · ∉ keys lower) := by
          apply List.filter_congr
          intro other among
          have different : other ≠ name := by
            rintro rfl
            exact distinct.1 among
          simp [different]
        rw [if_neg known, if_pos (decide_eq_true known), others, List.append_assoc,
          List.singleton_append]

/-! ## Paths of keys -/

/-- The value that a path of keys leads to. -/
def valueAt : (path : List String) → Value → Option Value
  | [], value => some value
  | key :: rest, .map entries => (find? entries key).bind (valueAt rest)
  | _ :: _, _ => none

/-- Whether nothing but mappings stands before the end of a path, as far as it leads. -/
def IsOpen : (path : List String) → Value → Prop
  | [], _ => True
  | key :: rest, .map entries => ∀ inner, find? entries key = some inner → IsOpen rest inner
  | _ :: _, _ => False

theorem valueAt_cons (key : String) (rest : List String) (entries : Entries) :
    valueAt (key :: rest) (.map entries) = (find? entries key).bind (valueAt rest) := rfl

theorem valueAt_singleton (key : String) (entries : Entries) :
    valueAt [key] (.map entries) = find? entries key := by
  rw [valueAt_cons]
  cases find? entries key <;> rfl

theorem isOpen_singleton (key : String) (entries : Entries) : IsOpen [key] (.map entries) :=
  fun _ _ => trivial

theorem valueAt_of_noMap {path : List String} (further : path ≠ [])
    (noMap : value.NoMap) : valueAt path value = none := by
  cases path with
  | nil => contradiction
  | cons key rest =>
      cases value with
      | map entries => exact absurd rfl (noMap entries)
      | _ => rfl

theorem not_isOpen_of_noMap {path : List String} (further : path ≠ [])
    (noMap : value.NoMap) : ¬IsOpen path value := by
  cases path with
  | nil => contradiction
  | cons key rest =>
      cases value with
      | map entries => exact absurd rfl (noMap entries)
      | _ => exact fun open_ => open_

theorem valueAt_append (first second : List String) (tree : Value) :
    valueAt (first ++ second) tree = (valueAt first tree).bind (valueAt second) := by
  induction first generalizing tree with
  | nil => rfl
  | cons key rest inductionHypothesis =>
      rcases eq_map_or_noMap tree with ⟨entries, rfl⟩ | noMap
      · rw [List.cons_append, valueAt_cons, valueAt_cons, Option.bind_assoc]
        exact congrArg _ (funext inductionHypothesis)
      · rw [valueAt_of_noMap (List.cons_ne_nil _ _) noMap]
        exact valueAt_of_noMap (List.cons_ne_nil _ _) noMap

/-- A path goes on behind its end as far as the value there lets it. -/
theorem isOpen_append {first second : List String} {tree : Value} (open_ : IsOpen first tree)
    (further : ∀ value, valueAt first tree = some value → IsOpen second value) :
    IsOpen (first ++ second) tree := by
  induction first generalizing tree with
  | nil => exact further tree rfl
  | cons key rest inductionHypothesis =>
      rcases eq_map_or_noMap tree with ⟨entries, rfl⟩ | noMap
      · intro inner found
        refine inductionHypothesis (open_ inner found) fun value leads => further value ?_
        rw [valueAt_cons, found]
        exact leads
      · exact absurd open_ (not_isOpen_of_noMap (List.cons_ne_nil _ _) noMap)

theorem KeyedOnce.valueAt {path : List String} {tree : Value} (keyed : KeyedOnce tree)
    (leads : valueAt path tree = some value) : KeyedOnce value := by
  induction path generalizing tree with
  | nil =>
      obtain rfl := Option.some.inj leads
      exact keyed
  | cons key rest inductionHypothesis =>
      rcases eq_map_or_noMap tree with ⟨entries, rfl⟩ | noMap
      · obtain ⟨inner, found, further⟩ := Option.bind_eq_some_iff.1 leads
        exact inductionHypothesis (keyed.found found) further
      · rw [valueAt_of_noMap (List.cons_ne_nil _ _) noMap] at leads
        contradiction

/-- An open path leads to the upper value laid over the lower one. -/
theorem valueAt_overlay {path : List String} {lower upper : Value} (keyed : KeyedOnce upper)
    (open_ : IsOpen path (overlay lower upper)) :
    valueAt path (overlay lower upper) =
      covered (valueAt path lower) (valueAt path upper) := by
  induction path generalizing lower upper with
  | nil => rfl
  | cons key rest inductionHypothesis =>
      have further : key :: rest ≠ [] := List.cons_ne_nil _ _
      rcases eq_map_or_noMap upper with ⟨above, rfl⟩ | noMap
      · rcases eq_map_or_noMap lower with ⟨below, rfl⟩ | noMap
        · have found := find?_overlayEntries keyed.distinct below key
          rw [overlay_map_map] at open_ ⊢
          rw [valueAt_cons, valueAt_cons, valueAt_cons]
          have opens : ∀ inner, covered (find? below key) (find? above key) = some inner →
              IsOpen rest inner :=
            fun inner same => open_ inner (found.trans same)
          rw [found]
          cases high : find? above key with
          | none => rw [covered_none, Option.bind_none, covered_none]
          | some new =>
              cases low : find? below key with
              | none => rw [none_covered, Option.bind_none, none_covered]
              | some old =>
                  rw [high, low] at opens
                  exact inductionHypothesis (keyed.found high) (opens _ rfl)
        · rw [overlay_of_noMap _ noMap, valueAt_of_noMap further noMap, none_covered]
      · rw [overlay_noMap lower noMap] at open_
        exact absurd open_ (not_isOpen_of_noMap further noMap)

/-- A path that is open in the whole is open in the upper tree. -/
theorem isOpen_of_overlay {path : List String} {lower upper : Value} (keyed : KeyedOnce upper)
    (open_ : IsOpen path (overlay lower upper)) : IsOpen path upper := by
  induction path generalizing lower upper with
  | nil => trivial
  | cons key rest inductionHypothesis =>
      rcases eq_map_or_noMap upper with ⟨above, rfl⟩ | noMap
      · rcases eq_map_or_noMap lower with ⟨below, rfl⟩ | noMap
        · intro inner high
          have found := find?_overlayEntries keyed.distinct below key
          rw [high] at found
          cases low : find? below key with
          | none =>
              rw [low] at found
              exact open_ inner found
          | some old =>
              rw [low] at found
              exact inductionHypothesis (keyed.found high) (open_ _ found)
        · rwa [overlay_of_noMap _ noMap] at open_
      · rwa [overlay_noMap lower noMap] at open_

/-! ## Layers -/

/-- The value that the first of several layers gives at the end of a path. -/
def firstGiven (path : List String) (layers : List Entries) : Option Value :=
  layers.findSome? fun layer => valueAt path (.map layer)

variable {path : List String} {layers : List Entries}

theorem map_overlayAll_cons (layer : Entries) (above : List Entries) :
    .map (overlayAll (layer :: above)) = overlay (.map layer) (.map (overlayAll above)) := rfl

theorem valueAt_overlayAll_cons (layer : Entries) {above : List Entries}
    (each : ∀ layer ∈ above, KeyedOnce (.map layer))
    (open_ : IsOpen path (.map (overlayAll (layer :: above)))) :
    valueAt path (.map (overlayAll (layer :: above))) =
        covered (valueAt path (.map layer)) (valueAt path (.map (overlayAll above))) ∧
      IsOpen path (.map (overlayAll above)) := by
  have once := KeyedOnce.overlayAll each
  rw [map_overlayAll_cons] at open_ ⊢
  exact ⟨valueAt_overlay once open_, isOpen_of_overlay once open_⟩

theorem valueAt_nil (nonempty : path ≠ []) : valueAt path (.map []) = none := by
  cases path with
  | nil => contradiction
  | cons key rest => rfl

/-- Where an open path leads to a value that is no mapping, or nowhere, the first layer from above
that gives the path a value decides. The induction is on the layers, lowest first. -/
theorem firstGiven_reverse (each : ∀ layer ∈ layers, KeyedOnce (.map layer)) (nonempty : path ≠ [])
    (open_ : IsOpen path (.map (overlayAll layers)))
    (noMap : ∀ entries,
      valueAt path (.map (overlayAll layers)) ≠ some (.map entries)) :
    firstGiven path layers.reverse = valueAt path (.map (overlayAll layers)) := by
  induction layers with
  | nil => exact (valueAt_nil nonempty).symm
  | cons layer above inductionHypothesis =>
      have eachAbove : ∀ layer ∈ above, KeyedOnce (.map layer) :=
        fun other among => each other (List.mem_cons_of_mem _ among)
      obtain ⟨whole, openAbove⟩ := valueAt_overlayAll_cons layer eachAbove open_
      have split_ : firstGiven path (layer :: above).reverse =
          (firstGiven path above.reverse).or (valueAt path (.map layer)) := by
        unfold firstGiven
        rw [List.reverse_cons, List.findSome?_append, List.findSome?_singleton]
      rw [whole] at noMap ⊢
      rw [split_]
      have fromAbove := inductionHypothesis eachAbove openAbove
      cases high : valueAt path (.map (overlayAll above)) with
      | none =>
          rw [high] at fromAbove
          rw [fromAbove nofun, covered_none, Option.none_or]
      | some value =>
          have leaf : value.NoMap := by
            rintro entries rfl
            rw [high] at noMap
            obtain ⟨all, isMap⟩ := covered_some_map (valueAt path (.map layer)) entries
            exact noMap all isMap
          rw [high] at fromAbove
          rw [fromAbove fun entries same => leaf entries (Option.some.inj same),
            covered_some_noMap _ leaf, Option.some_or]

/-! ### Tables -/

/-- The table that is there, if one is. -/
def tableOf : Option Value → Entries
  | some (.map entries) => entries
  | _ => []

/-- The members of several lists one after another, each where it comes first. -/
def inTurn (lists : List (List String)) : List String :=
  lists.foldr (fun first later => first ++ later.filter (decide <| · ∉ first)) []

theorem keys_tableOf_covered {lower : Option Value} (once : (keys upper).Nodup) :
    keys (tableOf (covered lower (some (.map upper)))) =
      keys (tableOf lower) ++ (keys upper).filter (decide <| · ∉ keys (tableOf lower)) := by
  have alone : keys upper = keys [] ++ (keys upper).filter (decide <| · ∉ keys []) := by
    simp
  cases lower with
  | none => exact alone
  | some old =>
      rcases eq_map_or_noMap old with ⟨entries, rfl⟩ | noMap
      · exact keys_overlayEntries once entries
      · have nothing : tableOf (some old) = [] := by
          cases old with
          | map entries => exact absurd rfl (noMap entries)
          | _ => rfl
        rw [nothing]
        show keys (tableOf (some (overlay old (.map upper)))) = _
        rw [overlay_of_noMap _ noMap]
        exact alone

/-- Where an open path leads to a table, or nowhere, the keys are those of the lowest layer, then
the new ones of the next, and so on. -/
theorem keys_tableOf_overlayAll (each : ∀ layer ∈ layers, KeyedOnce (.map layer))
    (nonempty : path ≠ []) (open_ : IsOpen path (.map (overlayAll layers)))
    (onlyMap : ∀ value, valueAt path (.map (overlayAll layers)) = some value →
      ∃ entries, value = .map entries) :
    keys (tableOf (valueAt path (.map (overlayAll layers)))) =
      inTurn (layers.map fun layer => keys (tableOf (valueAt path (.map layer)))) := by
  induction layers with
  | nil =>
      rw [show overlayAll [] = [] from rfl, valueAt_nil nonempty]
      rfl
  | cons layer above inductionHypothesis =>
      have eachAbove : ∀ layer ∈ above, KeyedOnce (.map layer) :=
        fun other among => each other (List.mem_cons_of_mem _ among)
      obtain ⟨whole, openAbove⟩ := valueAt_overlayAll_cons layer eachAbove open_
      have fromAbove := inductionHypothesis eachAbove openAbove
      rw [whole] at onlyMap ⊢
      show _ = keys (tableOf _) ++ (inTurn (above.map _)).filter _
      cases high : valueAt path (.map (overlayAll above)) with
      | none =>
          rw [high] at fromAbove
          rw [covered_none, ← fromAbove nofun]
          exact (List.append_nil _).symm
      | some value =>
          rw [high] at onlyMap fromAbove
          rcases eq_map_or_noMap value with ⟨entries, rfl⟩ | noMap
          · have once : (keys entries).Nodup :=
              ((KeyedOnce.overlayAll eachAbove).valueAt high).distinct
            rw [keys_tableOf_covered once, ← fromAbove]
            · rfl
            · intro same isMap
              exact ⟨entries, (Option.some.inj isMap).symm⟩
          · obtain ⟨entries, isMap⟩ := onlyMap value (covered_some_noMap _ noMap)
            exact absurd isMap (noMap entries)

end Value

end Bindery
