import PivotedQuery.Dialogue.Basic
/-!
Reading the schema of a database: its tables in the order listed, each with its columns and
indexes. The first failure ends the probe, and nothing of what was read is kept.
-/
namespace PivotedQuery.Probe

def table (database : String) (name : Identifier) : Dialogue (Except SchemaError Table) := do
  match ← Dialogue.call (.listColumns database name) with
  | .error e => return .error e
  | .ok columns =>
    match ← Dialogue.call (.listIndexes database name) with
    | .error e => return .error e
    | .ok indexes => return .ok ⟨name, columns, indexes⟩

def tables (database : String) : List Identifier → Dialogue (Except SchemaError (List Table))
  | [] => return .ok []
  | name :: names => do
    match ← table database name with
    | .error e => return .error e
    | .ok t => return (← tables database names).map (t :: ·)

def fetch (database : String) : Dialogue (Except SchemaError (List Table)) := do
  match ← Dialogue.call (.listTables database) with
  | .error e => return .error e
  | .ok names => tables database names

def indexCount (tables : List Table) : Nat := (tables.flatMap (·.indexes)).length

/-- What took the place of the snapshot; a failed probe leaves the old one. -/
def refresh (database : String) (old : List Table) :
    Dialogue (Except SchemaError (List Table) × List Table) := do
  match ← fetch database with
  | .error e => return (.error e, old)
  | .ok tables =>
    Dialogue.log (.schemaRefreshed tables.length (indexCount tables))
    return (.ok tables, tables)

end PivotedQuery.Probe
