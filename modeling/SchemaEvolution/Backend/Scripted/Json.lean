import SchemaEvolution.Backend.Scripted
import SchemaEvolution.Json.Failure

/-!
# Scripts in JSON

How a script is described, and what it shows of the calls it has seen.
-/

namespace SchemaEvolution.Scripted

open Json

/-- A refusal from JSON. -/
def Refusal.ofJson : Reader Refusal := fun depth j => do
  let contains ← j.field? "contains" >>= string?
  let kind ← optional (unit? BackendError.Kind.names depth) (j.field? "kind")
  let message ← optional string? (j.field? "message")
  let times ← optional count? (j.field? "times")
  some { contains, kind := kind.getD .other, message := message.getD "boom", times }

/-- Prepared rows from JSON. -/
def Prepared.ofJson : Reader Prepared := fun depth j => do
  let contains ← j.field? "contains" >>= string?
  let columns ← j.field? "columns" >>= texts? depth
  let rows ← j.field? "rows" >>= rowsOfJson depth
  some ⟨contains, ⟨columns, rows⟩⟩

/-- A version table from JSON. -/
def Ledger.ofJson : Reader Ledger := fun depth j => do
  let marker ← j.field? "marker" >>= string?
  let created ← j.field? "exists" >>= bool?
  let rows ← j.field? "rows" >>= rowsOfJson depth
  let rows ← rows.mapM fun
    | [version, group] => some (version, group)
    | _ => none
  some ⟨marker, created, rows⟩

/-- A version table as JSON. -/
def Ledger.toJson (float : Binary64 → Json) (l : Ledger) : Json := .record
  [("exists", .bool l.created),
   ("rows", .list (fun (version, group) => .list (Value.toJson float) [version, group]) l.rows)]

/-- A script with the parts that a JSON object names in their places. -/
def Script.revise (s : Script) : Reader Script := fun depth j => do
  let refusals ← optional (list? Refusal.ofJson depth) (j.field? "fail")
  let prepared ← optional (list? Prepared.ofJson depth) (j.field? "results")
  let ledger ← optional (Ledger.ofJson depth) (j.field? "ledger")
  let affected ← optional count? (j.field? "affected")
  let returned ← optional (Value.ofLenientJson depth) (j.field? "returning")
  some { s with
    refusals := refusals.getD s.refusals
    prepared := prepared.getD s.prepared
    ledger := ledger <|> s.ledger
    affected := affected.getD s.affected
    returned := returned.getD s.returned }

/-- What a call is called. -/
def callName : Call → String
  | .execute _ _ => "execute"
  | .insertReturning _ _ => "returning"
  | .query _ _ => "query"
  | .scalar _ _ => "query"
  | .commit => "commit"
  | .rollback => "rollback"
  | .close => "close"

/-- A call as JSON. -/
def callJson (float : Binary64 → Json) (c : Call) : Json := .record
  [("call", .text (callName c)), ("sql", .text c.sql),
   ("params", .list (Parameter.toJson float) c.parameters)]

/-- What a script shows: its log, and its version table if it has one. -/
def Script.shown (float : Binary64 → Json) (s : Script) : List (String × Json) :=
  ("log", .list (callJson float) s.log.reverse) ::
    match s.ledger with
    | some l => [("ledger", l.toJson float)]
    | none => []

end SchemaEvolution.Scripted
