import SchemaEvolution.Proofs.Client.Binding
import SchemaEvolution.Proofs.Operation.Statements
import SchemaEvolution.Proofs.TableName

/-!
# Inserts and the deletes that undo them

An insert lists its columns as names, and the delete that undoes it refers to them in a condition,
with one comparison for each column. Both name the same table. A name is written in both places in
the same way if and only if nothing in it means something in a reference: a star, a dot, a
parenthesis or a space (`insert_and_inverse_written`).
-/

namespace SchemaEvolution

open Text (Delimiters Lexeme Reads)

/-! ### Names and references -/

/-- A name without anything that means something in a reference. -/
def IsPlainName (column : String) : Prop :=
  column ≠ "*" ∧ ∀ c ∈ column.toList, c ≠ '.' ∧ c ≠ '(' ∧ c ≠ ' '

instance (column : String) : Decidable (IsPlainName column) :=
  inferInstanceAs (Decidable (_ ∧ _))

private theorem length_le_length_double (q : Char) (text : List Char) :
    text.length ≤ (Text.double q text).length := by
  induction text with
  | nil => exact Nat.le_refl 0
  | cons c text ih =>
    by_cases hc : c = q
    · rw [Text.double, if_pos hc, List.length_cons, List.length_cons, List.length_cons]
      omega
    · rw [Text.double, if_neg hc, List.length_cons, List.length_cons]
      omega

/-- Nothing is the same with delimiters around it. -/
theorem Text.Delimiters.quote_ne (d : Delimiters) (name : String) : d.quote name ≠ name := by
  intro h
  have hlength := congrArg (fun text : String => text.toList.length) h
  have hinner := length_le_length_double d.closing name.toList
  simp only [quote, Text.quote, String.toList_ofList, List.length_cons,
    List.length_append] at hlength
  omega

/-- A star and an expression stand in a reference as they are. -/
theorem quoteReference_of_expression (quote : String → String) {column : String}
    (h : column = "*" ∨ ¬PlainReference column) : quoteReference quote column = column := by
  have hkept : (column == "*" || column.toList.any fun c => c = '(' || c = ' ') = true := by
    rw [Bool.or_eq_true, beq_iff_eq]
    refine h.imp_right fun hexpression => ?_
    simp only [PlainReference, not_forall, not_and_or, not_not] at hexpression
    obtain ⟨c, hc, hmeans⟩ := hexpression
    exact List.any_eq_true.mpr ⟨c, hc, by simpa using hmeans⟩
  exact if_pos hkept

/-- A name with a dot in it is several names in a reference. -/
private theorem quoteReference_ne_of_dot (d : Delimiters) {column : String}
    (hplain : PlainReference column) (hdot : '.' ∈ column.toList) :
    quoteReference d.quote column ≠ d.quote column := by
  intro h
  have hread := (Reads.reference (d := d) hplain).lexemes_eq
  rw [h, (Reads.identifier column).lexemes_eq] at hread
  have hqualified : (TableName.split column).1.isSome = true := by
    rw [← TableName.isQualified_eq]
    exact List.contains_iff_mem.mpr hdot
  obtain ⟨front, hfront⟩ := Option.isSome_iff_exists.mp hqualified
  cases hparts : TableName.parts front with
  | nil => exact TableName.parts_ne_nil front hparts
  | cons part parts =>
    rw [referenceLexemes, TableName.parts_of_split_some hfront, hparts] at hread
    cases parts with
    | nil => simp at hread
    | cons next parts => simp at hread

/-- A reference to a column is written as the name of the column is if and only if nothing in the
name means something in a reference. -/
theorem quoteReference_eq_iff (d : Delimiters) (column : String) :
    quoteReference d.quote column = d.quote column ↔ IsPlainName column := by
  constructor
  · intro h
    have hplain : column ≠ "*" ∧ PlainReference column := by
      by_contra hnot
      rw [not_and_or, not_not] at hnot
      rw [quoteReference_of_expression d.quote hnot] at h
      exact d.quote_ne column h.symm
    refine ⟨hplain.1, fun c hc => ⟨?_, hplain.2 c hc⟩⟩
    rintro rfl
    exact quoteReference_ne_of_dot d hplain.2 hc h
  · rintro ⟨hstar, hplain⟩
    have hnone : (TableName.split column).1 = none := by
      rw [← Option.not_isSome_iff_eq_none, ← TableName.isQualified_eq]
      intro hdot
      exact (hplain '.' (List.contains_iff_mem.mp hdot)).1 rfl
    obtain ⟨hparts, hbare⟩ := TableName.parts_of_split_none hnone
    rw [hbare] at hparts
    have hexpression : (column.toList.any fun c => c = '(' || c = ' ') = false := by
      refine List.any_eq_false.mpr fun c hc => ?_
      simpa using (hplain c hc).2
    simp [quoteReference, hexpression, hstar, hparts]

/-! ### The delete that undoes an insert -/

/-- Conditions that have to hold together. -/
def conjunction : List String → String
  | [] => ""
  | first :: rest => rest.foldl (fun left right => "(" ++ left ++ ") AND (" ++ right ++ ")") first

/-- What values are compared by: null is asked for, and other values are equal to placeholders from
`start` on. -/
def comparedTo (placeholder : Nat → String) (start : Nat) : List Value → List String
  | [] => []
  | value :: values =>
    if value.isNull then " IS NULL" :: comparedTo placeholder start values
    else (" = " ++ placeholder start) :: comparedTo placeholder (start + 1) values

namespace Operation

open Fragment

variable (quote : String → String) (placeholder : Nat → String)

/-- A comparison with null has no hole, and any other has one. -/
theorem template_equals (column : String) (value : Value) :
    (Filter.equals column value).template quote =
      if value.isNull then [.text (quote column ++ " IS NULL")]
      else [.text (quote column ++ " = "), .hole] := by
  have hoperator : quote column ++ " " ++ Comparison.equal.operator ++ " " =
      quote column ++ " = " := by
    rw [String.append_assoc, String.append_assoc]
    rfl
  cases value with
  | null => rfl
  | _ =>
    rw [← hoperator]
    rfl

/-- The comparisons of a row are written one after the other. -/
theorem fillEach_equals (start : Nat) (columns : List String) (values : List Value) :
    fillEach placeholder start
        ((List.zipWith Filter.equals columns values).map (Filter.template quote)) =
      List.zipWith (· ++ ·) (columns.map quote) (comparedTo placeholder start values) := by
  induction columns generalizing start values with
  | nil => rfl
  | cons column columns ih =>
    cases values with
    | nil => rfl
    | cons value values =>
      rw [List.zipWith_cons_cons, List.map_cons, template_equals, fillEach, ih]
      cases hnull : value.isNull <;> simp [fill, holes, comparedTo, hnull, String.append_assoc]

/-- All of some filters are written with their texts as a conjunction. -/
theorem fill_allOf (start : Nat) {filters : List Filter} {filter : Filter}
    (h : allOf filters = some filter) :
    fill placeholder start (filter.template quote) =
      conjunction (fillEach placeholder start (filters.map (Filter.template quote))) := by
  cases filters with
  | nil => cases h
  | cons first rest =>
    cases h
    rw [List.map_cons, fillEach, conjunction]
    -- The texts that follow start behind the holes of what stands in front of them.
    induction rest generalizing first with
    | nil => rfl
    | cons next rest ih =>
      rw [List.foldl_cons, ih, List.map_cons, fillEach, List.foldl_cons]
      simp [Filter.template, fill, fill_append, holes, holes_append, String.append_assoc,
        Nat.add_assoc]

variable (k : Dialect.Supported) (schema : Option String) (config : ClientConfig)

/-- An insert of a row, as it is sent. -/
theorem statements_insert (table : String) {columns : List String} {values : List Value}
    (hlength : values.length = columns.length) (hne : columns ≠ []) :
    (insert table columns values).statements (k.client schema config) =
      .ok [⟨"INSERT INTO " ++ k.dialect.quoteTable ((k.client schema config).tableName table) ++
          " (" ++ commaList (columns.map k.dialect.quoteIdentifier) ++ ") VALUES (" ++
            commaList ((List.range columns.length).map k.dialect.placeholder) ++ ")",
        Parameter.binding values⟩] := by
  have hempty : columns.isEmpty = false := List.isEmpty_eq_false_iff.mpr hne
  have hrow : Client.rowValues columns (some values) = .ok values := if_pos hlength
  rw [statements, hrow]
  change Except.ok [Statement.mk (k.dialect.insert _ columns) _] = _
  rw [k.plain.insert, k.plain.nameParameters, k.inputs_number, insertStatement, hempty,
    if_neg Bool.false_ne_true]
  simp [String.append_assoc]

/-- All of some filters bind what each of them binds. -/
theorem operands_allOf {filters : List Filter} {filter : Filter} (h : allOf filters = some filter) :
    filter.operands = filters.flatMap Filter.operands := by
  cases filters with
  | nil => cases h
  | cons first rest =>
    cases h
    induction rest generalizing first with
    | nil => simp
    | cons next rest ih => simp [ih, Filter.operands, List.append_assoc]

/-- A row is compared with its values apart from the nulls. -/
theorem operands_rowFilter {columns : List String} {values : List Value} {filter : Filter}
    (hlength : values.length = columns.length) (h : rowFilter columns values = some filter) :
    filter.operands = values.filter (!·.isNull) := by
  have heach (columns : List String) (values : List Value)
      (hlength : values.length = columns.length) :
      (List.zipWith Filter.equals columns values).flatMap Filter.operands =
        values.filter (!·.isNull) := by
    induction columns generalizing values with
    | nil =>
      rw [List.eq_nil_of_length_eq_zero hlength]
      rfl
    | cons column columns ih =>
      cases values with
      | nil => cases hlength
      | cons value values =>
        have hvalues : (value :: values).filter (!·.isNull) =
            [value].filter (!·.isNull) ++ values.filter (!·.isNull) :=
          List.filter_append [value] values
        rw [hvalues, ← ih values (Nat.succ.inj hlength)]
        rfl
  rw [operands_allOf h, heach columns values hlength]

/-- The delete that undoes an insert, as it is sent. -/
theorem statements_delete_rowFilter (table : String) {columns : List String} {values : List Value}
    {filter : Filter} (hlength : values.length = columns.length)
    (h : rowFilter columns values = some filter) :
    (delete table (some filter)).statements (k.client schema config) =
      .ok [⟨"DELETE FROM " ++ k.dialect.quoteTable ((k.client schema config).tableName table) ++
          " WHERE " ++ conjunction (List.zipWith (· ++ ·) (columns.map k.dialect.quoteColumn)
            (comparedTo k.dialect.placeholder 0 values)),
        Parameter.binding (values.filter (!·.isNull))⟩] := by
  have hwords (text : String) : " " ++ ("WHERE " ++ text) = " WHERE " ++ text := by
    rw [← String.append_assoc]
    rfl
  rw [statements, k.condition_eq]
  change Except.ok [Statement.mk (k.dialect.delete _ ++ (" " ++ ("WHERE " ++ _))) _] = _
  rw [k.plain.delete, fill_allOf _ _ _ h, fillEach_equals, ← operands_rowFilter hlength h,
    ← k.inputs_number, hwords, ← String.append_assoc]
  rfl

/-- An insert and its inverse are one statement each, and name the same table. The insert lists the
names of its columns, and the inverse compares a reference to each of them, in the same order, with
its value. Each of the two is written in the same way if and only if nothing in the name means
something in a reference. -/
theorem insert_and_inverse_written (table : String) {columns : List String} {values : List Value}
    (hlength : values.length = columns.length) (hne : columns ≠ []) :
    ∃ inverse, (insert table columns values).reverse = some inverse ∧
      (insert table columns values).statements (k.client schema config) =
        .ok [⟨"INSERT INTO " ++ k.dialect.quoteTable ((k.client schema config).tableName table) ++
            " (" ++ commaList (columns.map k.dialect.quoteIdentifier) ++ ") VALUES (" ++
              commaList ((List.range columns.length).map k.dialect.placeholder) ++ ")",
          Parameter.binding values⟩] ∧
      inverse.statements (k.client schema config) =
        .ok [⟨"DELETE FROM " ++ k.dialect.quoteTable ((k.client schema config).tableName table) ++
            " WHERE " ++ conjunction (List.zipWith (· ++ ·) (columns.map k.dialect.quoteColumn)
              (comparedTo k.dialect.placeholder 0 values)),
          Parameter.binding (values.filter (!·.isNull))⟩] ∧
      ∀ column ∈ columns,
        k.dialect.quoteColumn column = k.dialect.quoteIdentifier column ↔ IsPlainName column := by
  obtain ⟨filter, hfilter⟩ : ∃ filter, rowFilter columns values = some filter := by
    cases columns with
    | nil => exact absurd rfl hne
    | cons column columns =>
      cases values with
      | nil => cases hlength
      | cons value values => exact ⟨_, rfl⟩
  refine ⟨.delete table (some filter), ?_, statements_insert k schema config table hlength hne,
    statements_delete_rowFilter k schema config table hlength hfilter, fun column _ => ?_⟩
  · rw [reverse, hfilter]
    rfl
  · rw [k.quoteColumn_eq, k.quoteIdentifier_eq]
    exact quoteReference_eq_iff k.delimiters column

theorem insert_and_inverse_written_three :
    ∃ inverse, (insert "t" ["id", "a b", "c"] [.text "x", .int 1, .null]).reverse = some inverse ∧
      (insert "t" ["id", "a b", "c"] [.text "x", .int 1, .null]).statements
          (Dialect.Supported.sqlServer.client (some "s") {}) =
        .ok [⟨"INSERT INTO [s].[t] ([id], [a b], [c]) VALUES (@par0, @par1, @par2)",
          Parameter.binding [.text "x", .int 1, .null]⟩] ∧
      inverse.statements (Dialect.Supported.sqlServer.client (some "s") {}) =
        .ok [⟨"DELETE FROM [s].[t] WHERE (([id] = @par0) AND (a b = @par1)) AND ([c] IS NULL)",
          Parameter.binding [.text "x", .int 1]⟩] := by
  obtain ⟨inverse, hinverse, hinsert, hdelete, -⟩ :=
    @insert_and_inverse_written .sqlServer (some "s") {} "t" ["id", "a b", "c"]
      [.text "x", .int 1, .null] rfl (List.cons_ne_nil _ _)
  exact ⟨inverse, hinverse, hinsert.trans (by decide +kernel), hdelete.trans (by decide +kernel)⟩

/-- The inverse of an insert refers to a column whose name has a space in it as an expression. -/
theorem insert_of_spaced_column :
    (insert "t" ["first name"] [.int 1]).statements (Dialect.Supported.sqlite.client none {}) =
        .ok [⟨"INSERT INTO \"t\" (\"first name\") VALUES (?1)", Parameter.binding [.int 1]⟩] ∧
      ((insert "t" ["first name"] [.int 1]).reverse.map fun inverse =>
          inverse.statements (Dialect.Supported.sqlite.client none {})) =
        some (.ok [⟨"DELETE FROM \"t\" WHERE first name = ?1", Parameter.binding [.int 1]⟩]) ∧
      Dialect.sqlite.quoteColumn "first name" ≠ Dialect.sqlite.quoteIdentifier "first name" := by
  decide +kernel

end Operation

end SchemaEvolution
