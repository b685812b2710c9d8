import SchemaEvolution.Json.Parser
import SchemaEvolution.Json.Printer
import SchemaEvolution.Json.Row
import SchemaEvolution.Sqlite.Execution

/-!
# Database files

The tables of the built-in store as a text, which is what a database file holds: a line that says
what it is, and for each table the text that declares it with its rows, as JSON. An empty file holds
no tables, and any other text is no database.
-/

namespace SchemaEvolution.Sqlite

open Json

/-- A double as it stands in a file. -/
def fileFloat (x : Binary64) : Json := .text x.text

/-- A row as JSON. -/
def StoredRow.toJson (r : StoredRow) : Json := .record
  [("number", .int64 (Int64.ofInt r.number)), ("values", .list (Value.toJson fileFloat) r.values)]

/-- A row from JSON. -/
def StoredRow.ofJson : Json.Reader StoredRow := fun depth j => do
  match ← record? ["number", "values"] depth j with
  | (depth, [number, values]) =>
    some ⟨(← required int64? number).toInt, ← required (list? Value.ofLenientJson depth) values⟩
  | _ => none

namespace StoredTable

/-- The table that a text declares, without rows. -/
def ofSource? (source : String) : Option StoredTable :=
  match Statement.next (Lexeme.ofStatements source) with
  | .ok (some (.createTable _ _ table d source, _)) =>
    (ofDeclaration table.name.text false d source).toOption
  | _ => none

/-- A table as JSON. -/
def toJson (t : StoredTable) : Json := .record
  [("source", .text t.source), ("rows", .list StoredRow.toJson t.rows)]

/-- A table from JSON. -/
def ofJson : Json.Reader StoredTable := fun depth j => do
  match ← record? ["source", "rows"] depth j with
  | (depth, [source, rows]) =>
    let t ← ofSource? (← required string? source)
    some { t with rows := ← required (list? StoredRow.ofJson depth) rows }
  | _ => none

end StoredTable

namespace Store

/-- The first line of a database file. -/
def fileHeader : String := "tables with rows, format 2"

/-- The text of a database file. -/
def fileText (s : Store) : String :=
  fileHeader ++ "\n" ++ (Json.list StoredTable.toJson s.tables).compact ++ "\n"

/-- Whether a text starts as a database file does. -/
def isFileText (text : String) : Bool := (fileHeader.toList ++ ['\n']).isPrefixOf text.toList

/-- The store that a database file holds, which is damaged if the file is no database. -/
def ofFileText (text : String) : Store :=
  if text.isEmpty then {}
  else
    let tables := String.ofList (text.toList.drop (fileHeader.length + 1))
    match Json.parse tables >>= list? StoredTable.ofJson maxDepth with
    | some tables => if isFileText text then { tables } else { damage := some notDatabase }
    | none => { damage := some notDatabase }

end Store

end SchemaEvolution.Sqlite
