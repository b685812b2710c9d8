import SchemaEvolution.Dialect.Postgres
import SchemaEvolution.Dialect.SqlServer
import SchemaEvolution.Dialect.Sqlite

/-!
# Plain dialects

Dialects differ in how they quote, in placeholders and types, and in what they refuse. All of them
write the statements on rows in one way, and a table without comments takes one statement.
-/

namespace SchemaEvolution

/-- The values that parameters bind, in order. -/
def Parameter.values (parameters : List Parameter) : List Value := parameters.filterMap value?

/-- Numbered parameters bind the values that they were made for. -/
theorem Parameter.values_inputs_number (name : Nat → String) (start : Nat) (values : List Value) :
    Parameter.values (Parameter.inputs (InParameter.number name start values)) = values := by
  rw [Parameter.values, Parameter.inputs, InParameter.number, List.filterMap_map,
    List.mapIdx_eq_zipIdx_map, List.filterMap_map]
  exact (congrFun List.filterMap_eq_map _).trans (List.zipIdx_map_fst 0 values)

namespace Dialect

/-- The dialect writes statements on rows as dialects do by default, and creates a table without
comments in one statement. -/
structure Plain (d : Dialect) : Prop where
  createTable : ∀ table, table.columns ≠ [] → (∀ column ∈ table.columns, column.comment = none) →
    ∃ sql, d.createTable table = .ok [sql]
  insert : d.insert = insertStatement d.quoteIdentifier d.quoteTable d.placeholder ""
  delete : d.delete = fun table => "DELETE FROM " ++ d.quoteTable table
  nameParameters : d.nameParameters = InParameter.number d.parameterName
  whereClause : d.whereClause = fun filter offset =>
    filter.compile d.quoteColumn d.placeholder d.parameterName offset

private theorem one_statement {columns : List Column} (e : Error) (create : String)
    (comment : Column → String → Option String) (hcolumns : columns ≠ [])
    (hcomments : ∀ column ∈ columns, column.comment = none) :
    ∃ sql, (if columns.isEmpty then .error e
      else .ok (create :: columns.filterMap fun column => column.comment.bind (comment column)) :
        Except Error (List String)) = .ok [sql] := by
  have hempty : columns.isEmpty = false := List.isEmpty_eq_false_iff.mpr hcolumns
  have hnone : (columns.filterMap fun column => column.comment.bind (comment column)) = [] := by
    apply List.filterMap_eq_nil_iff.mpr
    intro column hcolumn
    rw [hcomments column hcolumn]
    rfl
  rw [hempty, hnone]
  exact ⟨create, rfl⟩

theorem plain_sqlite : sqlite.Plain where
  createTable _ := one_statement _ _ _
  insert := rfl
  delete := rfl
  nameParameters := rfl
  whereClause := rfl

theorem plain_postgres : postgres.Plain where
  createTable _ := one_statement _ _ _
  insert := rfl
  delete := rfl
  nameParameters := rfl
  whereClause := rfl

theorem plain_sqlServer : sqlServer.Plain where
  createTable _ := one_statement _ _ _
  insert := rfl
  delete := rfl
  nameParameters := rfl
  whereClause := rfl

end Dialect

end SchemaEvolution
