import Bindery.Proofs.Json.Pretty
import Bindery.Report.Outcome
import Mathlib.Data.List.Basic

/-!
Contract: the JSON form of an outcome says everything about it.

Owns:
- `Outcome.Exact`, outcomes whose data, error detail and remarks have a text of their own;
- the record of an outcome determines it;
- what is printed as JSON is a document, its value is the record, and no other outcome prints the
  same.

Does **not** own: the text of a value (`Bindery.Proofs.Json.Pretty`).
-/

namespace Bindery

namespace Value

/-- An optional value is told by what stands for it, if nothing stands for no value. -/
theorem optional_injective {α : Type} {form : α → Value} (injective : Function.Injective form)
    (present : ∀ content, form content ≠ .null) :
    Function.Injective fun content : Option α => (content.map form).getD .null := by
  rintro (_ | left) (_ | right) same
  · rfl
  · exact absurd same.symm (present right)
  · exact absurd same (present left)
  · exact congrArg some (injective same)

end Value

theorem Failure.toValue_injective : Function.Injective Failure.toValue := by
  rintro ⟨code, message, detail⟩ ⟨_, _, _⟩ same
  unfold toValue at same
  simp only [Value.map.injEq, List.cons.injEq, Prod.mk.injEq, Value.str.injEq, true_and,
    and_true] at same
  obtain ⟨rfl, rfl, rfl⟩ := same
  rfl

namespace Outcome

/-- The record of an outcome determines it. -/
theorem toValue_injective : Function.Injective toValue := by
  rintro ⟨ok, op, data, warnings, error, remarks⟩ ⟨_, _, _, _, _, _⟩ same
  unfold toValue at same
  simp only [Value.map.injEq, List.cons.injEq, Prod.mk.injEq, Value.bool.injEq, Value.str.injEq,
    Value.list.injEq, true_and, and_true] at same
  obtain ⟨rfl, rfl, rfl, sameWarnings, sameError, sameRemarks⟩ := same
  have textsDiffer : Function.Injective Value.str := fun _ _ => Value.str.inj
  have mappingsDiffer : Function.Injective Value.map := fun _ _ => Value.map.inj
  obtain rfl := List.map_injective_iff.2 textsDiffer sameWarnings
  obtain rfl := Value.optional_injective Failure.toValue_injective (fun _ => nofun) sameError
  obtain rfl := Value.optional_injective mappingsDiffer (fun _ => nofun) sameRemarks
  rfl

/-- Outcomes whose contents are found again in their text. Texts and warnings always are. -/
structure Exact (dialect : Json.Dialect) (outcome : Outcome) : Prop where
  data : Json.Exact dialect (.map outcome.data)
  detail : ∀ failure, outcome.error = some failure → Json.Exact dialect (.map failure.detail)
  remarks : ∀ entries, outcome.remarks = some entries → Json.Exact dialect (.map entries)

variable {dialect : Json.Dialect} {outcome : Outcome}

/-- With exact contents, the record is exact. -/
theorem Exact.toValue (exact_ : Exact dialect outcome) : Json.Exact dialect outcome.toValue := by
  obtain ⟨ok, op, data, warnings, error, remarks⟩ := outcome
  have exactWarnings : Json.Exact dialect (.list (warnings.map .str)) := by
    refine .list fun item among => ?_
    obtain ⟨text, _, rfl⟩ := List.mem_map.1 among
    exact .str text
  have exactError : Json.Exact dialect ((error.map Failure.toValue).getD .null) := by
    cases error with
    | none => exact .null
    | some failure =>
        refine .map (show ["code", "message", "detail"].Nodup by decide) ?_
        simp only [List.forall_mem_cons, List.not_mem_nil, false_implies, implies_true, and_true]
        exact ⟨.str _, .str _, exact_.detail failure rfl⟩
  have exactRemarks : Json.Exact dialect ((remarks.map Value.map).getD .null) := by
    cases remarks with
    | none => exact .null
    | some entries => exact exact_.remarks entries rfl
  refine .map (show ["ok", "op", "data", "warnings", "error", "meta"].Nodup by decide) ?_
  simp only [List.forall_mem_cons, List.not_mem_nil, false_implies, implies_true, and_true]
  exact ⟨.bool ok, .str op, exact_.data, exactWarnings, exactError, exactRemarks⟩

/-- The pretty form of an exact outcome is read as its record. -/
theorem Exact.parseIn_pretty (exact_ : Exact dialect outcome) :
    Json.parseIn dialect (Json.pretty outcome.toValue) = some outcome.toValue :=
  Json.parseIn_pretty exact_.toValue

/-- Two exact outcomes with one text are one outcome. -/
theorem Exact.eq_of_pretty {other : Outcome} (exact_ : Exact dialect outcome)
    (otherExact : Exact dialect other)
    (same : Json.pretty other.toValue = Json.pretty outcome.toValue) : other = outcome := by
  have read : some other.toValue = some outcome.toValue := by
    rw [← exact_.parseIn_pretty, ← otherExact.parseIn_pretty, same]
  exact toValue_injective (Option.some.inj read)

/-- What is printed as JSON is one document of the standard grammar. Its value is the record of the
outcome, with every key and every item in its place, and no other outcome prints the same text. -/
theorem Exact.render_json {form : ReportForm} (asJson : form.json = true)
    (exact_ : Exact .standard outcome) :
    ∃ text, form.render outcome = .ok text ∧
      Json.parseIn .standard text = some (.map [
        ("ok", .bool outcome.ok), ("op", .str outcome.op), ("data", .map outcome.data),
        ("warnings", .list (outcome.warnings.map .str)),
        ("error",
          match outcome.error with
          | none => .null
          | some failure => .map [("code", .str failure.code), ("message", .str failure.message),
              ("detail", .map failure.detail)]),
        ("meta",
          match outcome.remarks with
          | none => .null
          | some entries => .map entries)]) ∧
      ∀ other, Exact .standard other → form.render other = .ok text → other = outcome := by
  have printed (result : Outcome) : form.render result = .ok (Json.pretty result.toValue) := by
    unfold ReportForm.render
    rw [if_pos asJson]
  refine ⟨Json.pretty outcome.toValue, printed outcome, ?_, ?_⟩
  · rw [exact_.parseIn_pretty]
    unfold Outcome.toValue
    cases outcome.error <;> cases outcome.remarks <;> rfl
  · intro other otherExact sameText
    rw [printed other] at sameText
    exact exact_.eq_of_pretty otherExact (Except.ok.inj sameText)

/-- A failure with a number of more than 64 bits, escapes, and empty and nested containers. -/
def nestedFailure : Outcome where
  ok := false
  op := "build"
  data := [("b", .list []), ("a", .map [("é\x01\"\\", .list [.null, .bool true])])]
  warnings := ["tab\there"]
  error := some ⟨"LATEX_ERROR", "line\nend", [("size", .int (-36893488147419103232))]⟩
  remarks := some [("telemetry", .map [])]

theorem exact_nestedFailure : Exact .standard nestedFailure where
  data := by
    have items : ∀ item ∈ [Value.null, .bool true], Json.Exact .standard item :=
      List.forall_mem_cons.2 ⟨.null, List.forall_mem_singleton.2 (.bool true)⟩
    have inner : Json.Exact .standard (.map [("é\x01\"\\", .list [.null, .bool true])]) :=
      .map (List.nodup_singleton _) (List.forall_mem_singleton.2 (.list items))
    exact .map (by decide)
      (List.forall_mem_cons.2 ⟨.list nofun, List.forall_mem_singleton.2 inner⟩)
  detail := by
    rintro _ ⟨⟩
    exact .map (List.nodup_singleton _) (List.forall_mem_singleton.2 (.int _ rfl))
  remarks := by
    rintro _ ⟨⟩
    exact .map (List.nodup_singleton _) (List.forall_mem_singleton.2 (.map List.nodup_nil nofun))

/-- The nested failure is found again in what is printed. -/
theorem nestedFailure_render_json :
    Exact .standard nestedFailure ∧
      ∃ text, ReportForm.render ⟨true, false, false⟩ nestedFailure = .ok text ∧
        Json.parseIn .standard text = some nestedFailure.toValue ∧
        ∀ other, Exact .standard other →
          ReportForm.render ⟨true, false, false⟩ other = .ok text → other = nestedFailure :=
  ⟨exact_nestedFailure, Exact.render_json rfl exact_nestedFailure⟩

end Outcome

end Bindery
