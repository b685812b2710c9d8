import Mathlib.Data.Finset.Basic
import SchemaEvolution.Proofs.Operation.Statements
import SchemaEvolution.Proofs.Postgres.Reversal

/-!
# Renaming tables

A statement that renames a table names it by all parts of its name and gives it another last part,
so the table stays in its schema. The inverse of a rename has the two names in each other's place:
it looks for the table in the schema of its new name. So it finds the table, and takes the rename
back, exactly when the old name and the new one point into the same schema
(`reverse_renameTable_restores_iff`).
-/

namespace SchemaEvolution

/-- What a statement renames: the parts of the name of a table, and its new last part. -/
structure Renaming where
  table : List String
  newName : String
  deriving DecidableEq, Repr

namespace Renaming

open Text (Lexeme Reads)

/-! ### Reading statements -/

/-- The renaming that a change is, if it is one of a table. -/
def ofChange : Layout.Change → Option Renaming
  | .renameTable table newName => some ⟨table, newName⟩
  | _ => none

/-- The renaming that lexemes of a call of the procedure for it denote. The name of the table is a
text, with its parts between dots. -/
def ofProcedure : List Lexeme → Option Renaming
  | [.word "EXEC", .word "sp_rename", .word "N", .literal table, .symbol ',', .word "N",
      .literal newName] => some ⟨TableName.parts table, newName⟩
  | _ => none

/-- The renaming that a statement denotes in a dialect. -/
def read (k : Dialect.Supported) (sql : String) : Option Renaming :=
  match k with
  | .sqlServer => ofProcedure (Text.lexemes k.delimiters sql)
  | .sqlite | .postgres => (Layout.changeOf sql).bind ofChange

/-- The statement of a rename is read as the names that it is written with. -/
theorem read_renameTable (k : Dialect.Supported) (table newName : String) :
    read k (k.dialect.renameTable table newName) =
      some ⟨TableName.parts table, TableName.bare newName⟩ := by
  have haltered : (Layout.changeOf (Dialect.postgres.renameTable table newName)).bind ofChange =
      some ⟨TableName.parts table, TableName.bare newName⟩ := by
    rw [Layout.changeOf_renameTable]
    rfl
  cases k with
  | sqlite => exact haltered
  | postgres => exact haltered
  | sqlServer =>
    have hcall : Reads .brackets false "EXEC sp_rename " [.word "EXEC", .word "sp_rename"] :=
      Reads.of_scan rfl
    have hread := ((hcall.append (Reads.nationalLiteral table) rfl).append Reads.comma rfl).append
      (Reads.nationalLiteral (TableName.bare newName)) rfl
    have hlexemes : Text.lexemes .brackets (Dialect.sqlServer.renameTable table newName) = _ :=
      hread.lexemes_eq
    rw [read, Dialect.Supported.delimiters, Dialect.Supported.dialect, hlexemes]
    rfl

/-! ### The tables of a database -/

/-- Where a table stands: the parts of its schema, and its own name. -/
abbrev Address : Type := List String × String

/-- How a database takes names: the schema of those that carry none, and the form in which it
compares them. -/
structure Naming where
  current : List String
  fold : String → String

/-- The schema that parts in front of a name point into. -/
def Naming.schema (naming : Naming) (front : List String) : List String :=
  (if front = [] then naming.current else front).map naming.fold

/-- Where a name points. -/
def Naming.address (naming : Naming) (parts : List String) : Option Address :=
  parts.getLast?.map fun last => (naming.schema parts.dropLast, naming.fold last)

theorem Naming.address_append_singleton (naming : Naming) (front : List String) (last : String) :
    naming.address (front ++ [last]) = some (naming.schema front, naming.fold last) := by
  simp [address]

/-- The tables after a renaming. It is refused when there is no table of the old name, and when
there is one of the new name. -/
def perform (naming : Naming) (r : Renaming) (tables : Finset Address) :
    Option (Finset Address) := do
  let source ← naming.address r.table
  let target := (source.1, naming.fold r.newName)
  if source ∈ tables ∧ target ∉ tables then some (insert target (tables.erase source)) else none

section Perform

variable {naming : Naming} {tables after : Finset Address} {front front' : List String}
  {name name' : String}

theorem perform_eq_some_iff :
    perform naming ⟨front ++ [name], name'⟩ tables = some after ↔
      (naming.schema front, naming.fold name) ∈ tables ∧
        (naming.schema front, naming.fold name') ∉ tables ∧
          insert (naming.schema front, naming.fold name')
            (tables.erase (naming.schema front, naming.fold name)) = after := by
  simp [perform, naming.address_append_singleton, and_assoc]

/-- A table that was renamed is renamed back, if it is looked for in its schema. -/
theorem perform_back (hschema : naming.schema front = naming.schema front')
    (h : perform naming ⟨front ++ [name], name'⟩ tables = some after) :
    perform naming ⟨front' ++ [name'], name⟩ after = some tables := by
  obtain ⟨hsource, htarget, rfl⟩ := perform_eq_some_iff.mp h
  rw [perform_eq_some_iff, ← hschema]
  have hdiffer : (naming.schema front, naming.fold name) ≠
      (naming.schema front, naming.fold name') := fun heq => htarget (heq ▸ hsource)
  refine ⟨Finset.mem_insert_self _ _, ?_, ?_⟩
  · simp [hdiffer]
  · rw [Finset.erase_insert (fun hmem => htarget (Finset.mem_of_mem_erase hmem)),
      Finset.insert_erase hsource]

/-- Where a renaming takes the only table to another name, a renaming from another schema finds no
table. -/
theorem not_perform_back (hschema : naming.schema front ≠ naming.schema front')
    (hname : naming.fold name ≠ naming.fold name') :
    ∃ before after, perform naming ⟨front ++ [name], name'⟩ before = some after ∧
      perform naming ⟨front' ++ [name'], name⟩ after = none := by
  refine ⟨{(naming.schema front, naming.fold name)}, {(naming.schema front, naming.fold name')},
    ?_, ?_⟩
  · simp [perform_eq_some_iff, hname.symm]
  · simp [perform, naming.address_append_singleton, hschema.symm]

end Perform

/-! ### Databases that rename tables -/

/-- A database carries out the renamings that statements of its dialect denote. What it refuses
leaves the tables as they were. -/
structure CarriedOutBy (k : Dialect.Supported) (naming : Naming) (db : Backend (Finset Address)) :
    Prop where
  accepts : ∀ {sql : String} {r : Renaming} {tables after : Finset Address},
    read k sql = some r → r.perform naming tables = some after →
      ∃ affected : Nat, (db.answer (.execute sql [])).run tables = (.ok affected, after)
  refuses : ∀ {sql : String} {r : Renaming} {tables : Finset Address},
    read k sql = some r → r.perform naming tables = none →
      ∃ cause, (db.answer (.execute sql [])).run tables = (.error cause, tables)

/-- A database that renames tables and does nothing else. -/
def database (k : Dialect.Supported) (naming : Naming) : Backend (Finset Address) where
  answer
    | .execute sql [] => fun tables =>
      match (read k sql).bind fun r => r.perform naming tables with
      | some after => (.ok 0, after)
      | none => (.error { message := "refused" }, tables)
    | _ => fun tables => (.error { message := "refused" }, tables)

theorem carriedOutBy_database (k : Dialect.Supported) (naming : Naming) :
    CarriedOutBy k naming (database k naming) where
  accepts {sql r tables after} hread hmade := by
    have hafter : ((read k sql).bind fun r => r.perform naming tables) = some after := by
      rw [hread, Option.bind_some, hmade]
    refine ⟨0, ?_⟩
    change (match (read k sql).bind fun r => r.perform naming tables with
      | some after => _
      | none => _) = _
    rw [hafter]
  refuses {sql r tables} hread hrefused := by
    have hnone : ((read k sql).bind fun r => r.perform naming tables) = none := by
      rw [hread, Option.bind_some, hrefused]
    refine ⟨{ message := "refused" }, ?_⟩
    change (match (read k sql).bind fun r => r.perform naming tables with
      | some after => _
      | none => _) = _
    rw [hnone]

end Renaming

/-! ### The operation and its inverse -/

namespace Operation

open Renaming

/-- A client writes an operation as one statement, which denotes a renaming. -/
def Renames (k : Dialect.Supported) (c : Client) (op : Operation) (r : Renaming) : Prop :=
  ∃ sql, op.statements c = .ok (bare [sql]) ∧ read k sql = some r

variable {k : Dialect.Supported} {c : Client} {naming : Naming} {db : Backend (Finset Address)}
  {before after : Finset Address}

/-- A table is named with the schema that the client puts in front of its name, and gets the bare
new name. -/
theorem renames_renameTable (hdialect : c.dialect = k.dialect) (oldName newName : String) :
    Renames k c (.renameTable oldName newName)
      ⟨c.frontParts (TableName.split oldName).1 ++ [TableName.bare oldName],
        TableName.bare newName⟩ := by
  refine ⟨c.dialect.renameTable (c.tableName oldName) newName, rfl, ?_⟩
  rw [hdialect, read_renameTable, c.parts_tableName]

/-- An operation that denotes a renaming succeeds when the renaming is made. -/
theorem Renames.succeeds_iff (hdb : CarriedOutBy k naming db) {op : Operation}
    {r : Renaming} (h : Renames k c op r) (hcreation : op.isCreation = false) :
    (op.apply c).Succeeds db before after ↔ r.perform naming before = some after := by
  obtain ⟨sql, hstatements, hread⟩ := h
  have hnone : op.passesOver c = fun _ => false := by
    funext e
    simp [passesOver, hcreation]
  have happly : op.apply c = sendEach (bare [sql]) := by
    rw [apply_eq, hstatements, hnone]
    exact pardon_none _
  rw [happly]
  cases hchange : r.perform naming before with
  | some changed =>
    obtain ⟨affected, hanswer⟩ := hdb.accepts hread hchange
    rw [Action.succeeds_iff_of_ok (runFrom_sendEach_of_ok hanswer), Option.some.injEq]
  | none =>
    obtain ⟨cause, hanswer⟩ := hdb.refuses hread hchange
    exact iff_of_false (Action.not_succeeds_of_error (runFrom_sendEach_of_error hanswer))
      (Option.some_ne_none after).symm

/-- A rename of a table and its inverse are one statement each. The inverse looks for the new name
in the schema that the new name carries. So it takes back each rename that succeeds if and only if
the two names point into the same schema, or are the same and no rename succeeds. -/
theorem reverse_renameTable_restores_iff (hdialect : c.dialect = k.dialect)
    (hdb : CarriedOutBy k naming db) (oldName newName : String) :
    ∃ inverse, (renameTable oldName newName).reverse = some inverse ∧
      Renames k c (renameTable oldName newName)
        ⟨c.frontParts (TableName.split oldName).1 ++ [TableName.bare oldName],
          TableName.bare newName⟩ ∧
      Renames k c inverse
        ⟨c.frontParts (TableName.split newName).1 ++ [TableName.bare newName],
          TableName.bare oldName⟩ ∧
      ((∀ before after, ((renameTable oldName newName).apply c).Succeeds db before after →
          (inverse.apply c).Succeeds db after before) ↔
        naming.schema (c.frontParts (TableName.split oldName).1) =
            naming.schema (c.frontParts (TableName.split newName).1) ∨
          naming.fold (TableName.bare oldName) = naming.fold (TableName.bare newName)) := by
  have hforward := renames_renameTable hdialect oldName newName
  have hbackward := renames_renameTable hdialect newName oldName
  refine ⟨_, rfl, hforward, hbackward, ?_⟩
  simp only [hforward.succeeds_iff hdb rfl, hbackward.succeeds_iff hdb rfl]
  constructor
  · intro hback
    by_contra hnot
    obtain ⟨hschema, hname⟩ := not_or.mp hnot
    obtain ⟨before, after, hmade, hrefused⟩ := not_perform_back hschema hname
    rw [hback before after hmade] at hrefused
    cases hrefused
  · rintro (hschema | hname) before after hmade
    · exact perform_back hschema hmade
    · obtain ⟨hsource, htarget, -⟩ := perform_eq_some_iff.mp hmade
      exact absurd (hname ▸ hsource) htarget

/-- A client without a schema of its own. -/
private def plainClient : Client := ⟨Dialect.sqlServer, none, {}⟩

/-- Names are compared without regard to the case of letters, and point into one schema unless they
carry another. -/
private def caseless : Naming :=
  ⟨["dbo"], fun name => String.ofList (name.toList.map Char.toLower)⟩

theorem reverse_renameTable_restores_people :
    ((renameTable "people" "DBO.persons").apply plainClient).Succeeds
        (database .sqlServer caseless) {(["dbo"], "people")} {(["dbo"], "persons")} ∧
      ((renameTable "DBO.persons" "people").apply plainClient).Succeeds
        (database .sqlServer caseless) {(["dbo"], "persons")} {(["dbo"], "people")} := by
  obtain ⟨inverse, hinverse, hforward, -, hrestores⟩ :=
    reverse_renameTable_restores_iff (c := plainClient) rfl
      (carriedOutBy_database .sqlServer caseless) "people" "DBO.persons"
  cases hinverse
  have hmade : ((renameTable "people" "DBO.persons").apply plainClient).Succeeds
      (database .sqlServer caseless) {(["dbo"], "people")} {(["dbo"], "persons")} := by
    rw [hforward.succeeds_iff (carriedOutBy_database _ _) rfl]
    decide +kernel
  exact ⟨hmade, hrestores.mpr (.inl (by decide +kernel)) _ _ hmade⟩

/-- A table in a schema that is given a bare name is looked for outside the schema when the rename
is undone. -/
theorem reverse_renameTable_misses :
    (renameTable "app.t" "u").reverse = some (renameTable "u" "app.t") ∧
      Renames .postgres ⟨Dialect.postgres, none, {}⟩ (renameTable "app.t" "u") ⟨["app", "t"], "u"⟩ ∧
      Renames .postgres ⟨Dialect.postgres, none, {}⟩ (renameTable "u" "app.t") ⟨["u"], "t"⟩ ∧
      ((renameTable "app.t" "u").apply ⟨Dialect.postgres, none, {}⟩).Succeeds
        (database .postgres ⟨["public"], id⟩) {(["app"], "t")} {(["app"], "u")} ∧
      ¬((renameTable "u" "app.t").apply ⟨Dialect.postgres, none, {}⟩).Succeeds
        (database .postgres ⟨["public"], id⟩) {(["app"], "u")} {(["app"], "t")} := by
  have hforward : Renames .postgres ⟨Dialect.postgres, none, {}⟩ (renameTable "app.t" "u")
      ⟨["app", "t"], "u"⟩ := renames_renameTable rfl "app.t" "u"
  have hbackward : Renames .postgres ⟨Dialect.postgres, none, {}⟩ (renameTable "u" "app.t")
      ⟨["u"], "t"⟩ := renames_renameTable rfl "u" "app.t"
  refine ⟨rfl, hforward, hbackward, ?_, ?_⟩
  · rw [hforward.succeeds_iff (carriedOutBy_database _ _) rfl]
    decide +kernel
  · rw [hbackward.succeeds_iff (carriedOutBy_database _ _) rfl]
    decide +kernel

end Operation

end SchemaEvolution
