import SchemaEvolution.Proofs.Table.Definition

/-!
# Definitions of columns in PostgreSQL

The column that a definition of the PostgreSQL dialect is written for.
-/

namespace SchemaEvolution.Layout

open Text (Reads)

/-- What is declared with a column apart from its type, its nullability and its default. -/
def declaredLexemes (asKey unique : Bool) : List Text.Lexeme :=
  (if asKey then [.word "PRIMARY", .word "KEY"] else []) ++
    (if unique then [.word "UNIQUE"] else [])

namespace Column

/-- The column that a definition is written for, as the primary key or not. -/
def ofDefinition (column : SchemaEvolution.Column) (asKey : Bool) : Column where
  name := column.name
  type := Text.lexemes .quotes (Dialect.Postgres.columnType column)
  nullable := column.nullable
  default := column.default.map fun value =>
    Text.lexemes .quotes (Dialect.Postgres.renderDefault value)
  declared := declaredLexemes asKey (column.unique && !column.primaryKey)
  comment := none

variable {column : SchemaEvolution.Column} (asKey : Bool)

theorem ofDefinition_eq (column : SchemaEvolution.Column) :
    ofDefinition column asKey = defined .postgres column asKey := by
  have hdefault : (fun value => Text.lexemes .quotes (Dialect.Postgres.renderDefault value)) =
      defaultValueLexemes .postgres := funext (lexemes_default .postgres)
  rw [ofDefinition, hdefault]
  rfl

/-- A column is legible when its default is no expression. -/
theorem legible_ofDefinition (hvalue : ∀ value ∈ column.default, value.isValue = true) :
    (ofDefinition column asKey).Legible := by
  rw [ofDefinition_eq]
  exact legible_defined .postgres asKey hvalue

/-- The definition of a column, wherever it stands. -/
theorem reads_definition (hvalue : ∀ value ∈ column.default, value.isValue = true) :
    Reads .quotes true (Dialect.postgres.columnDefinition column asKey)
      (ofDefinition column asKey).lexemes := by
  rw [ofDefinition_eq]
  exact reads_defined .postgres asKey hvalue

end Column

end SchemaEvolution.Layout
