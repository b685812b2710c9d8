import SchemaEvolution.Json.Operation
import SchemaEvolution.Proofs.Json.Schema

/-!
# Operations in JSON are read back

The text of an operation without doubles is read back as the operation, and no other such operation
has the same text (`parse_toJson`).
-/

namespace SchemaEvolution.Operation

open Json

variable (float : Binary64 → Json)

/-- Whether an operation holds a double. -/
def hasDouble : Operation → Bool
  | .createTable table => table.hasDouble
  | .addColumn _ column => column.hasDouble
  | .modifyColumn _ _ column previous => column.hasDouble || previous.any Column.hasDouble
  | .insert _ _ values => values.any Value.isDouble
  | .update _ _ values filter => values.any Value.isDouble || filter.any Filter.hasDouble
  | .delete _ filter => filter.any Filter.hasDouble
  | _ => false

section

variable {name : String} {j : Json} {op : Operation}

theorem ofJson_tagged (depth : Nat) : ofJson (depth + 1) (tagged name j) =
    (definitionOfJson name depth j <|> keyOfJson name depth j <|> textsOfJson name depth j <|>
      rowsOfJson name depth j) := rfl

theorem faithful_of_definition (h : Faithful (definitionOfJson name) j op) :
    Faithful ofJson (tagged name j) op :=
  faithful_tagged h fun depth hread => by simp [ofJson_tagged, hread]

theorem faithful_of_key (hdefinition : ∀ depth, definitionOfJson name depth j = none)
    (h : Faithful (keyOfJson name) j op) : Faithful ofJson (tagged name j) op :=
  faithful_tagged h fun depth hread => by simp [ofJson_tagged, hdefinition, hread]

theorem faithful_of_texts (hdefinition : ∀ depth, definitionOfJson name depth j = none)
    (hkey : ∀ depth, keyOfJson name depth j = none) (h : Faithful (textsOfJson name) j op) :
    Faithful ofJson (tagged name j) op :=
  faithful_tagged h fun depth hread => by simp [ofJson_tagged, hdefinition, hkey, hread]

theorem faithful_of_rows (hdefinition : ∀ depth, definitionOfJson name depth j = none)
    (hkey : ∀ depth, keyOfJson name depth j = none)
    (htexts : ∀ depth, textsOfJson name depth j = none) (h : Faithful (rowsOfJson name) j op) :
    Faithful ofJson (tagged name j) op :=
  faithful_tagged h fun depth hread => by simp [ofJson_tagged, hdefinition, hkey, htexts, hread]

end

/-! ### Fields that several operations have -/

theorem faithful_columns (columns : List String) :
    Faithful texts? (.texts columns) columns :=
  faithful_list fun s _ => faithful_text s

theorem faithful_filter {filter : Option Filter} (h : filter.any Filter.hasDouble = false) :
    Faithful (fun depth => option? (Filter.ofJson depth)) (.option (Filter.toJson float) filter)
      filter :=
  faithful_option (fun _ hf => Filter.faithful float (eq_false_of_mem h hf)) fun f => by
    cases f <;> nofun

theorem faithful_previous {previous : Option Column} (h : previous.any Column.hasDouble = false) :
    Faithful (fun depth => option? (Column.ofJson depth)) (.option (Column.toJson float) previous)
      previous :=
  faithful_option (fun _ hc => Column.faithful float (eq_false_of_mem h hc)) fun c hc => by
    rw [Column.toJson, record] at hc
    cases hc

/-- An operation without doubles is read back from its JSON. -/
theorem faithful {op : Operation} (h : op.hasDouble = false) :
    Faithful ofJson (op.toJson float) op := by
  -- One case for each record of arguments: its fields are written, and what is read of them is put
  -- together again.
  cases op with
  | createTable table =>
    have htable := Table.faithful float h
    refine faithful_of_definition (faithful_record (fun _ _ => rfl) rfl (by decide) ?_ ?_)
    · simp [htable.isWritten]
    · intro depth hdepth
      simp only [List.forall_mem_cons] at hdepth
      simp [hdepth, htable.reads]
  | addColumn table column =>
    have hcolumn := Column.faithful float h
    refine faithful_of_definition (faithful_record (fun _ _ => rfl) rfl (by decide) ?_ ?_)
    · simp [hcolumn.isWritten]
    · intro depth hdepth
      simp only [List.forall_mem_cons] at hdepth
      simp [hdepth, hcolumn.reads]
  | modifyColumn table name column previous =>
    obtain ⟨hcolumn, hprevious⟩ := Bool.or_eq_false_iff.mp h
    have hcolumn := Column.faithful float hcolumn
    have hprevious := faithful_previous float hprevious
    refine faithful_of_definition (faithful_record (fun _ _ => rfl) rfl (by decide) ?_ ?_)
    · simp [hcolumn.isWritten, hprevious.isWritten]
    · intro depth hdepth
      simp only [List.forall_mem_cons] at hdepth
      simp [hdepth, hcolumn.reads, hprevious.reads]
  | addForeignKey key =>
    have hkey := ForeignKey.faithful key
    refine faithful_of_definition (faithful_record (fun _ _ => rfl) rfl (by decide) ?_ ?_)
    · simp [hkey.isWritten]
    · intro depth hdepth
      simp only [List.forall_mem_cons] at hdepth
      simp [hdepth, hkey.reads]
  | renameTable | renameColumn =>
    exact faithful_of_definition
      (faithful_record (fun _ _ => rfl) rfl (by decide) (by simp) fun _ _ => rfl)
  | addPrimaryKey table name columns =>
    have hname := faithful_maybe name
    have hcolumns := faithful_columns columns
    refine faithful_of_key (fun _ => rfl) (faithful_record (fun _ _ => rfl) rfl (by decide) ?_ ?_)
    · simp [hname.isWritten, hcolumns.isWritten]
    · intro depth hdepth
      simp only [List.forall_mem_cons] at hdepth
      simp [hdepth, hname.value, hcolumns.reads]
  | dropPrimaryKey table name =>
    have hname := faithful_maybe name
    refine faithful_of_key (fun _ => rfl) (faithful_record (fun _ _ => rfl) rfl (by decide) ?_ ?_)
    · simp [hname.isWritten]
    · simp [hname.value]
  | addUniqueKey table name columns | addIndex table name columns =>
    have hcolumns := faithful_columns columns
    refine faithful_of_key (fun _ => rfl) (faithful_record (fun _ _ => rfl) rfl (by decide) ?_ ?_)
    · simp [hcolumns.isWritten]
    · intro depth hdepth
      simp only [List.forall_mem_cons] at hdepth
      simp [hdepth, hcolumns.reads]
  | dropTable | dropColumn | dropForeignKey | dropUniqueKey | dropIndex | addTableComment
  | removeTableComment | addColumnComment | removeColumnComment =>
    exact faithful_of_texts (fun _ => rfl) (fun _ => rfl)
      (faithful_record (fun _ _ => rfl) rfl (by decide) (by simp) fun _ _ => rfl)
  | insert table columns values =>
    have hcolumns := faithful_columns columns
    have hvalues := Value.faithful_list float h
    refine faithful_of_rows (fun _ => rfl) (fun _ => rfl) (fun _ => rfl)
      (faithful_record (fun _ _ => rfl) rfl (by decide) ?_ ?_)
    · simp [hcolumns.isWritten, hvalues.isWritten]
    · intro depth hdepth
      simp only [List.forall_mem_cons] at hdepth
      simp [hdepth, hcolumns.reads, hvalues.reads]
  | update table columns values filter =>
    obtain ⟨hvalues, hfilter⟩ := Bool.or_eq_false_iff.mp h
    have hcolumns := faithful_columns columns
    have hvalues := Value.faithful_list float hvalues
    have hfilter := faithful_filter float hfilter
    refine faithful_of_rows (fun _ => rfl) (fun _ => rfl) (fun _ => rfl)
      (faithful_record (fun _ _ => rfl) rfl (by decide) ?_ ?_)
    · simp [hcolumns.isWritten, hvalues.isWritten, hfilter.isWritten]
    · intro depth hdepth
      simp only [List.forall_mem_cons] at hdepth
      simp [hdepth, hcolumns.reads, hvalues.reads, hfilter.reads]
  | delete table filter =>
    have hfilter := faithful_filter float h
    refine faithful_of_rows (fun _ => rfl) (fun _ => rfl) (fun _ => rfl)
      (faithful_record (fun _ _ => rfl) rfl (by decide) ?_ ?_)
    · simp [hfilter.isWritten]
    · intro depth hdepth
      simp only [List.forall_mem_cons] at hdepth
      simp [hdepth, hfilter.reads]
  | runSql forward backward =>
    have hbackward := faithful_maybe backward
    refine faithful_of_rows (fun _ => rfl) (fun _ => rfl) (fun _ => rfl)
      (faithful_record (fun _ _ => rfl) rfl (by decide) ?_ ?_)
    · simp [hbackward.isWritten]
    · simp [hbackward.value]

/-- The text of an operation without doubles is read back as the operation, unless it nests too
deeply. No other operation without doubles has that text. -/
theorem parse_toJson {op : Operation} (h : op.hasDouble = false)
    (hdepth : (op.toJson float).nesting ≤ maxDepth) :
    (parse (op.toJson float).compact).bind (ofJson maxDepth) = some op ∧
      ∀ other : Operation, other.hasDouble = false →
        (other.toJson float).compact = (op.toJson float).compact → other = op := by
  have hop := faithful float h
  refine ⟨?_, fun other hother htext => ?_⟩
  · rw [parse_compact hop.isWritten, Option.bind_some]
    exact hop.reads hdepth
  · have hread := (faithful float hother).reads (Nat.le_refl _)
    rw [compact_injective (faithful float hother).isWritten hop.isWritten htext,
      hop.reads (Nat.le_refl _)] at hread
    exact (Option.some.inj hread).symm

/-- An update whose condition nests, with texts that are escaped. -/
theorem parse_toJson_nested_update :
    let condition : Filter :=
      .not (.and (.compare "a\n" .equal .null) (.oneOf "\x01" [.int (-7), .blob [0, 255]] true))
    let op : Operation := .update "\"t\"" ["a\\"] [.text "é"] (some condition)
    (parse (op.toJson Json.float).compact).bind (ofJson maxDepth) = some op ∧
      ∀ other : Operation, other.hasDouble = false →
        (other.toJson Json.float).compact = (op.toJson Json.float).compact → other = op :=
  parse_toJson Json.float rfl (by decide)

end SchemaEvolution.Operation
