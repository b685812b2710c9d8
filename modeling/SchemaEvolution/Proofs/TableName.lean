import SchemaEvolution.TableName

/-!
# The parts of names

The parts of a name determine the name, dots included.
-/

namespace SchemaEvolution

namespace Text

variable {sep : Char}

/-- Every text has a part. -/
theorem splitEvery_ne_nil (text : List Char) : splitEvery sep text ≠ [] := by
  cases text with
  | nil => exact List.cons_ne_nil _ _
  | cons c rest =>
    rw [splitEvery]
    by_cases hc : c = sep
    · simp [hc]
    · rw [if_neg hc]
      split <;> exact List.cons_ne_nil _ _

/-- The parts of a text with the separators between them are the text. -/
theorem intercalate_splitEvery (text : List Char) :
    [sep].intercalate (splitEvery sep text) = text := by
  induction text with
  | nil => rfl
  | cons c rest ih =>
    cases hparts : splitEvery sep rest with
    | nil => exact absurd hparts (splitEvery_ne_nil rest)
    | cons part parts =>
      rw [hparts] at ih
      by_cases hc : c = sep
      · subst hc
        rw [splitEvery, if_pos rfl, hparts, List.intercalate_cons_cons, ih]
        rfl
      · rw [splitEvery, if_neg hc, hparts]
        cases parts with
        | nil => simpa using ih
        | cons next parts => simpa using ih

/-- No part has a separator in it. -/
theorem not_mem_of_mem_splitEvery {text part : List Char} (h : part ∈ splitEvery sep text) :
    sep ∉ part := by
  induction text generalizing part with
  | nil =>
    rw [List.mem_singleton.mp h]
    exact List.not_mem_nil
  | cons c rest ih =>
    rw [splitEvery] at h
    split at h
    · rcases List.mem_cons.mp h with rfl | h
      · exact List.not_mem_nil
      · exact ih h
    · next hc =>
      cases hparts : splitEvery sep rest with
      | nil => exact absurd hparts (splitEvery_ne_nil rest)
      | cons first others =>
        rw [hparts] at h ih
        rcases List.mem_cons.mp h with rfl | h
        · exact List.not_mem_cons_of_ne_of_not_mem (Ne.symm hc) (ih List.mem_cons_self)
        · exact ih (List.mem_cons_of_mem _ h)

/-- A text without separators is its only part. -/
theorem splitEvery_of_splitLast_none {text : List Char} (h : splitLast sep text = none) :
    splitEvery sep text = [text] := by
  induction text with
  | nil => rfl
  | cons c rest ih =>
    rw [splitLast] at h
    split at h
    · cases h
    · next hrest =>
      by_cases hc : c = sep
      · rw [if_pos hc] at h
        cases h
      · rw [splitEvery, if_neg hc, ih hrest]

/-- What stands behind the last separator is the last part. -/
theorem splitEvery_of_splitLast {text before after : List Char}
    (h : splitLast sep text = some (before, after)) :
    splitEvery sep text = splitEvery sep before ++ [after] := by
  induction text generalizing before with
  | nil => cases h
  | cons c rest ih =>
    rw [splitLast] at h
    split at h
    · next earlier later hrest =>
      cases h
      by_cases hc : c = sep
      · rw [splitEvery, if_pos hc, ih hrest, splitEvery, if_pos hc, List.cons_append]
      · rw [splitEvery, if_neg hc, ih hrest, splitEvery, if_neg hc]
        cases hparts : splitEvery sep earlier with
        | nil => exact absurd hparts (splitEvery_ne_nil earlier)
        | cons part parts => rfl
    · next hrest =>
      by_cases hc : c = sep
      · rw [if_pos hc] at h
        cases h
        simp [splitEvery, hc, splitEvery_of_splitLast_none hrest]
      · rw [if_neg hc] at h
        cases h

/-- A separator ends a part. -/
theorem splitEvery_append_cons (first second : List Char) :
    splitEvery sep (first ++ sep :: second) = splitEvery sep first ++ splitEvery sep second := by
  induction first with
  | nil => simp [splitEvery]
  | cons c first ih =>
    by_cases hc : c = sep
    · rw [List.cons_append, splitEvery, if_pos hc, ih, splitEvery, if_pos hc, List.cons_append]
    · rw [List.cons_append, splitEvery, if_neg hc, ih, splitEvery, if_neg hc]
      cases hparts : splitEvery sep first with
      | nil => exact absurd hparts (splitEvery_ne_nil first)
      | cons part parts => rfl

/-- There is a last separator if there is one at all. -/
theorem isSome_splitLast (text : List Char) : (splitLast sep text).isSome = text.contains sep := by
  induction text with
  | nil => rfl
  | cons c rest ih =>
    rw [splitLast, List.contains_cons, ← ih]
    cases splitLast sep rest with
    | some parts => simp
    | none =>
      by_cases hc : c = sep
      · simp [hc]
      · simp [hc, Ne.symm hc]

end Text

namespace TableName

variable {name : String}

/-- A name that carries no schema is its only part. -/
theorem parts_of_split_none (h : (split name).1 = none) :
    parts name = [bare name] ∧ bare name = name := by
  rw [bare, split] at *
  cases hlast : Text.splitLast '.' name.toList with
  | some pair => simp [hlast] at h
  | none => simp [parts, Text.splitEvery_of_splitLast_none hlast]

/-- The parts of a name that carries a schema are those of the schema and the bare name. -/
theorem parts_of_split_some {schema : String} (h : (split name).1 = some schema) :
    parts name = parts schema ++ [bare name] := by
  rw [bare, split] at *
  cases hlast : Text.splitLast '.' name.toList with
  | none => simp [hlast] at h
  | some pair =>
    have hschema : String.ofList pair.1 = schema := by simpa [hlast] using h
    simp [parts, ← hschema, Text.splitEvery_of_splitLast hlast]

theorem isQualified_eq (name : String) : isQualified name = (split name).1.isSome := by
  rw [isQualified, ← Text.isSome_splitLast, split]
  cases Text.splitLast '.' name.toList <;> rfl

/-- A dot ends a part. -/
theorem parts_append_dot (schema name : String) :
    parts (schema ++ "." ++ name) = parts schema ++ parts name := by
  simp [parts, Text.splitEvery_append_cons]

theorem parts_ne_nil (name : String) : parts name ≠ [] := by
  simpa [parts] using Text.splitEvery_ne_nil name.toList

/-- The primary key of a table is named after the last part of its name. -/
theorem primaryKey_eq (name : String) :
    primaryKey name = "pk_" ++ (parts name).getLast (parts_ne_nil name) := by
  have hlast : (parts name).getLast? = some (bare name) := by
    cases hschema : (split name).1 with
    | none =>
      rw [(parts_of_split_none hschema).1]
      rfl
    | some schema => rw [parts_of_split_some hschema, List.getLast?_concat]
  rw [List.getLast?_eq_some_getLast (parts_ne_nil name)] at hlast
  rw [primaryKey, Option.some.inj hlast]

/-- The parts of a name with dots between them are the name. -/
theorem intercalate_parts (name : String) : ".".intercalate (parts name) = name := by
  apply String.toList_inj.mp
  rw [String.toList_intercalate, parts, List.map_map]
  have hparts : (Text.splitEvery '.' name.toList).map (String.toList ∘ String.ofList) =
      Text.splitEvery '.' name.toList := by
    simp [Function.comp_def]
  rw [hparts]
  exact Text.intercalate_splitEvery name.toList

end TableName

end SchemaEvolution
