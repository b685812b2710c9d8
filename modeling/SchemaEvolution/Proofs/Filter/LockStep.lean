import SchemaEvolution.Filter.Condition
import SchemaEvolution.Proofs.Filter.Template

/-!
# Conditions and their values

A walk over a filter writes its template, filled from the next placeholder on, and notes as many
values as the template has holes (`run_write`). So every hole binds the operand that stands at its
place, whatever the placeholders look like and wherever they start.
-/

namespace SchemaEvolution

namespace Fragment

variable (placeholder : Nat → String)

theorem holes_append (first second : List Fragment) :
    holes (first ++ second) = holes first + holes second := by
  induction first with
  | nil => simp [holes]
  | cons piece rest ih =>
    cases piece with
    | text s => simpa [holes] using ih
    | hole =>
      simp only [List.cons_append, holes, ih]
      omega

/-- The holes of the second part follow those of the first. -/
theorem fill_append (start : Nat) (first second : List Fragment) :
    fill placeholder start (first ++ second) =
      fill placeholder start first ++ fill placeholder (start + holes first) second := by
  induction first generalizing start with
  | nil => simp [fill, holes]
  | cons piece rest ih =>
    cases piece with
    | text s => simp [fill, holes, ih, String.append_assoc]
    | hole =>
      have hstart : start + 1 + holes rest = start + (holes rest + 1) := by omega
      simp [fill, holes, ih, hstart, String.append_assoc]

/-- Templates filled one after the other. -/
def fillEach (start : Nat) : List (List Fragment) → List String
  | [] => []
  | item :: items => fill placeholder start item :: fillEach (start + holes item) items

/-- The holes of some templates. -/
def holesOfEach : List (List Fragment) → Nat
  | [] => 0
  | item :: items => holes item + holesOfEach items

theorem holes_commaSeparated (items : List (List Fragment)) :
    holes (commaSeparated items) = holesOfEach items := by
  induction items with
  | nil => rfl
  | cons item items ih =>
    cases items with
    | nil => simp [commaSeparated, holesOfEach]
    | cons next items =>
      have hnext : holes (.text ", " :: commaSeparated (next :: items)) =
          holesOfEach (next :: items) := ih
      rw [commaSeparated, holes_append, hnext]
      · rfl
      · exact List.cons_ne_nil _ _

/-- Filling templates between commas is putting commas between filled templates. -/
theorem fill_commaSeparated (start : Nat) (items : List (List Fragment)) :
    fill placeholder start (commaSeparated items) =
      ", ".intercalate (fillEach placeholder start items) := by
  induction items generalizing start with
  | nil => simp [commaSeparated, fill, fillEach]
  | cons item items ih =>
    cases items with
    | nil => simp [commaSeparated, fillEach]
    | cons next items =>
      have hnext := ih (start + holes item)
      rw [fillEach, fillEach, String.intercalate_cons_cons, ← fillEach, ← hnext, commaSeparated,
        fill_append, fill, String.append_assoc]
      exact List.cons_ne_nil _ _

end Fragment

namespace Filter

open Fragment

variable (quote : String → String) (placeholder : Nat → String) (offset : Nat)

/-- A hole for an operand that is bound, and none for null. -/
theorem holes_operandTemplate (value : Value) :
    holes (operandTemplate value) = ([value].filter (!·.isNull)).length := by
  cases hnull : value.isNull <;> simp [operandTemplate, hnull, holes]

/-- A template has a hole for each value that its filter binds. -/
theorem holes_template (filter : Filter) :
    holes (filter.template quote) = filter.operands.length := by
  induction filter with
  | compare column comparison value =>
    cases value <;> cases comparison <;> rfl
  | between column low high =>
    have hlow := holes_operandTemplate low
    have hhigh := holes_operandTemplate high
    simp only [template, operands, holes, holes_append, hlow, hhigh, ← List.length_append,
      ← List.filter_append, List.singleton_append]
  | oneOf column values negated =>
    cases values with
    | nil => rfl
    | cons value values =>
      have hitems (values : List Value) : holesOfEach (values.map operandTemplate) =
          (values.filter (!·.isNull)).length := by
        induction values with
        | nil => rfl
        | cons value values ih =>
          have hsplit : value :: values = [value] ++ values := rfl
          rw [hsplit, List.filter_append, List.length_append, ← ih, ← holes_operandTemplate]
          rfl
      rw [template, holes, holes_append, holes_commaSeparated, hitems]
      rfl
  | and left right ihLeft ihRight =>
    simp only [template, operands, holes, holes_append, ihLeft, ihRight, List.length_append]
    omega
  | or left right ihLeft ihRight =>
    simp only [template, operands, holes, holes_append, ihLeft, ihRight, List.length_append]
    omega
  | not inner ih => simp only [template, operands, holes, holes_append, ih, Nat.add_zero]

/-- A walk goes on from where its first part ended. -/
private theorem run_bind_of_run {α β : Type} {first : StateM Bound α} {bound bound' : Bound} {a : α}
    (h : first.run bound = (a, bound')) (next : α → StateM Bound β) :
    (first >>= next).run bound = (next a).run bound' := by
  rw [StateT.run_bind, h]
  rfl

/-- Writing an operand fills its template, and notes the value unless it is null. -/
theorem run_writeOperand (value : Value) (bound : Bound) :
    (writeOperand placeholder offset value).run bound =
      (fill placeholder (offset + bound.placeholders) (operandTemplate value),
        ⟨bound.placeholders + holes (operandTemplate value),
          bound.values ++ [value].filter (!·.isNull)⟩) := by
  cases hnull : value.isNull <;> simp [writeOperand, operandTemplate, hnull, fill, holes] <;> rfl

/-- Writing operands one after the other fills their templates in this order. -/
theorem run_mapM_writeOperand (values : List Value) (bound : Bound) :
    (values.mapM (writeOperand placeholder offset)).run bound =
      (fillEach placeholder (offset + bound.placeholders) (values.map operandTemplate),
        ⟨bound.placeholders + holesOfEach (values.map operandTemplate),
          bound.values ++ values.filter (!·.isNull)⟩) := by
  induction values generalizing bound with
  | nil =>
    simp [fillEach, holesOfEach]
    rfl
  | cons value values ih =>
    have hvalues : (value :: values).filter (!·.isNull) =
        [value].filter (!·.isNull) ++ values.filter (!·.isNull) := List.filter_append [value] values
    rw [List.mapM_cons, run_bind_of_run (run_writeOperand placeholder offset value bound),
      run_bind_of_run (ih _), hvalues, ← List.append_assoc]
    simp only [List.map_cons, fillEach, holesOfEach, ← Nat.add_assoc]
    rfl

/-- A comparison that does not ask for null is written around its operand. -/
private theorem write_compare (column : String) {comparison : Comparison} {value : Value}
    (h : value.isNull = false ∨ (comparison ≠ .equal ∧ comparison ≠ .notEqual)) :
    (Filter.compare column comparison value).write quote placeholder offset =
        (writeOperand placeholder offset value >>= fun operand =>
          pure (quote column ++ " " ++ comparison.operator ++ " " ++ operand)) ∧
      (Filter.compare column comparison value).template quote =
        .text (quote column ++ " " ++ comparison.operator ++ " ") :: operandTemplate value := by
  rcases h with h | ⟨hequal, hnot⟩
  · cases value <;> first | (cases comparison <;> exact ⟨rfl, rfl⟩) | cases h
  · cases comparison <;> first | exact ⟨rfl, rfl⟩ | contradiction

/-- A walk writes the filled template of its filter and notes the operands that are not null. -/
theorem run_write (filter : Filter) (bound : Bound) :
    (filter.write quote placeholder offset).run bound =
      (fill placeholder (offset + bound.placeholders) (filter.template quote),
        ⟨bound.placeholders + holes (filter.template quote), bound.values ++ filter.operands⟩) := by
  induction filter generalizing bound with
  | compare column comparison value =>
    by_cases hasked : value.isNull = true ∧ (comparison = .equal ∨ comparison = .notEqual)
    · obtain ⟨hnull, hcomparison⟩ := hasked
      cases value <;> cases hnull
      rcases hcomparison with rfl | rfl <;>
        simp [write, template, operands, Value.isNull, fill, holes] <;> rfl
    · have hbound : value.isNull = false ∨ (comparison ≠ .equal ∧ comparison ≠ .notEqual) := by
        cases hnull : value.isNull with
        | false => exact .inl rfl
        | true => exact .inr (not_or.mp fun h => hasked ⟨hnull, h⟩)
      obtain ⟨hwrite, htemplate⟩ := write_compare quote placeholder offset column hbound
      rw [hwrite, htemplate, run_bind_of_run (run_writeOperand placeholder offset value bound)]
      simp only [operands, fill, holes]
      rfl
  | between column low high =>
    rw [write, run_bind_of_run (run_writeOperand placeholder offset low bound),
      run_bind_of_run (run_writeOperand placeholder offset high _)]
    have hoperands : (Filter.between column low high).operands =
        [low].filter (!·.isNull) ++ [high].filter (!·.isNull) := List.filter_append [low] [high]
    simp only [template, hoperands, fill, holes, fill_append, holes_append, String.append_assoc,
      ← List.append_assoc, Nat.add_assoc]
    rfl
  | oneOf column values negated =>
    cases values with
    | nil => cases negated <;> simp [write, template, operands, fill, holes] <;> rfl
    | cons value values =>
      have hempty : (value :: values).isEmpty = false := rfl
      rw [write, hempty, if_neg Bool.false_ne_true,
        run_bind_of_run (run_mapM_writeOperand placeholder offset (value :: values) bound)]
      simp only [template, operands, fill, holes, fill_append, holes_append, holes_commaSeparated,
        fill_commaSeparated]
      cases negated <;> simp [String.append_assoc] <;> rfl
  | and left right ihLeft ihRight =>
    rw [write, run_bind_of_run (ihLeft bound), run_bind_of_run (ihRight _)]
    simp only [template, operands, fill, holes, fill_append, holes_append, String.append_assoc,
      List.append_assoc, Nat.add_assoc, Nat.add_zero, String.append_empty]
    rfl
  | or left right ihLeft ihRight =>
    rw [write, run_bind_of_run (ihLeft bound), run_bind_of_run (ihRight _)]
    simp only [template, operands, fill, holes, fill_append, holes_append, String.append_assoc,
      List.append_assoc, Nat.add_assoc, Nat.add_zero, String.append_empty]
    rfl
  | not inner ih =>
    rw [write, run_bind_of_run (ih bound)]
    simp only [template, operands, fill, holes, fill_append, holes_append, String.append_assoc,
      Nat.add_zero, String.append_empty]
    rfl

/-- The values that a filter binds are its operands, from left to right and without the nulls. -/
theorem boundValues_eq (filter : Filter) : filter.boundValues = filter.operands := by
  rw [boundValues, run_write]
  rfl

/-- Compiling never fails. -/
theorem compile_eq (parameterName : Nat → String) (filter : Filter) :
    filter.compile quote placeholder parameterName offset =
      .ok ⟨"WHERE " ++ fill placeholder offset (filter.template quote),
        InParameter.number parameterName offset filter.operands⟩ := by
  have hcount :
      0 + holes (filter.template quote) = ([] ++ filter.operands : List Value).length := by
    rw [Nat.zero_add, List.nil_append, holes_template]
  rw [compile, run_write]
  exact if_pos hcount

/-- A filter and the quoting of its columns determine a template. Its holes are as many as the
values that the filter binds, which a separate walk gives and which are the operands without the
nulls; null is asked for or written out, and has no hole. Compiling always succeeds, wherever the
placeholders start and whatever they look like: the text is the template with its holes filled in
turn, and the parameter of each hole carries the name and the position of its placeholder and the
value that stands there. -/
theorem compile_fills_template (filter : Filter) :
    holes (filter.template quote) = filter.boundValues.length ∧
    filter.boundValues = filter.operands ∧
    ((∀ column, (isNull column).template quote = [.text (quote column ++ " IS NULL")]) ∧
      (∀ column, (isNotNull column).template quote = [.text (quote column ++ " IS NOT NULL")]) ∧
      ∀ value : Value, operandTemplate value =
        if value.isNull then [.text "NULL"] else [.hole]) ∧
    ∀ (placeholder parameterName : Nat → String) (offset : Nat),
      filter.compile quote placeholder parameterName offset =
        .ok ⟨"WHERE " ++ fill placeholder offset (filter.template quote),
          filter.boundValues.mapIdx fun i value =>
            ⟨parameterName (offset + i), offset + i, value⟩⟩ := by
  refine ⟨?_, boundValues_eq filter, ⟨fun _ => rfl, fun _ => rfl, fun _ => rfl⟩, ?_⟩
  · rw [boundValues_eq, holes_template]
  · intro placeholder parameterName offset
    rw [compile_eq, boundValues_eq]
    rfl

end Filter

end SchemaEvolution
