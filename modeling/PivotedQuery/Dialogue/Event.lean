import PivotedQuery.Population.Report
import PivotedQuery.Session.Basic
/-!
What a session reports while it works, and the log line of each event.
-/
namespace PivotedQuery

inductive Level
  | trace
  | debug
  | info
  | warn
  | error
  deriving DecidableEq, Repr

def Level.name : Level → String
  | trace => "TRACE"
  | debug => "DEBUG"
  | info => "INFO"
  | warn => "WARN"
  | error => "ERROR"

inductive Event
  | opened (dataSource : String) (seed : UInt64)
  | databaseReset (database : String)
  | objectDropped (sql : String)
  | statementNotMade (kind : StatementKind) (e : GenerationError)
  | statementExecuted (sql : String)
  | statementFailed (kind : StatementKind) (e : ExecutionError)
  | reloadFailed (e : SchemaError)
  | populated (report : Report) (tables indexes inserts : Nat)
  | schemaRefreshed (tables indexes : Nat)
  | snapshotTaken (tables : Nat)
  | tableEmpty (table : Identifier)
  | nothingChosen
  | synthesized (query : RenderedQuery) (pivot : PivotRow)
  | pivotRow (pivot : PivotRow)
  | outputColumns (columns : List ColumnKey)
  | querySent (sql : String)
  | pivotContained (sql : String)
  | pivotMissing (m : Mismatch)
  | cancelled (iterations : Nat)
  | boundReached (iterations : Nat)
  | iterationAborted (f : Fault)
  | faultTolerated (iteration : Nat) (f : Fault)
  | closed (stats : Stats)
  | closeFailed (e : SessionError)

namespace Event

def level : Event → Level
  | synthesized .. => .trace
  | databaseReset _ | objectDropped _ | statementExecuted _ | schemaRefreshed .. | tableEmpty _
  | nothingChosen | iterationAborted _ => .debug
  | statementNotMade .. | statementFailed .. | faultTolerated .. | closeFailed _ => .warn
  | reloadFailed _ | pivotMissing _ => .error
  | _ => .info

def outOf (done total : Nat) : String := toString done ++ "/" ++ toString total

def message : Event → String
  | opened dataSource seed => "fuzzing " ++ dataSource ++ " with seed " ++ toString seed.toNat
  | databaseReset database => "database " ++ database ++ " reset"
  | objectDropped sql => sql
  | statementNotMade kind e =>
    "could not generate " ++ kind.name ++ " statement: " ++ e.message
  | statementExecuted sql => sql
  | statementFailed kind e =>
    kind.name ++ " statement failed: " ++ e.message ++ ": " ++ e.causes.headD ""
  | reloadFailed e => "failed to reload schema after creating tables: " ++ e.message
  | populated report tables indexes inserts =>
    "bootstrap done: " ++ outOf report.tables.executed tables ++ " tables, " ++
      outOf report.indexes.executed indexes ++ " indexes, " ++
      outOf report.inserts.executed inserts ++ " inserts"
  | schemaRefreshed tables indexes =>
    "schema refreshed: " ++ toString tables ++ " tables, " ++ toString indexes ++ " indexes"
  | snapshotTaken tables => "schema snapshot holds " ++ toString tables ++ " tables"
  | tableEmpty table => "table " ++ table.name ++ " is empty, leaving it out of the pivot"
  | nothingChosen => "no chosen table has rows, skipping iteration"
  | synthesized query _ => "synthesized: " ++ query.sql
  | pivotRow pivot => "pivot row:\n" ++ pivot.text
  | outputColumns columns => "columns: " ++ Query.commaList (columns.map ColumnKey.text)
  | querySent sql => "query: " ++ sql
  | pivotContained sql => "run one statement successfully: " ++ sql
  | pivotMissing m => "pivot row missing from query result\n" ++ m.text
  | cancelled iterations => "fuzzing cancelled after " ++ toString iterations ++ " iterations"
  | boundReached iterations => "reached " ++ toString iterations ++ " iterations"
  | iterationAborted f => "iteration aborted by cancellation: " ++ f.message
  | faultTolerated iteration f =>
    "infrastructure fault in iteration " ++ toString iteration ++ ": " ++ f.message
  | closed stats => "fuzzing closed: " ++ stats.text
  | closeFailed e => "closing after a failed start: " ++ e.message

end Event

end PivotedQuery
