import PivotedQuery.Fault
import PivotedQuery.Value.Cell
/-!
Requests to the database under test and the answers that each of them may get.
-/
namespace PivotedQuery

inductive Request
  | listTables (database : String)
  | listColumns (database : String) (table : Identifier)
  | listIndexes (database : String) (table : Identifier)
  | select (sql : String)
  | exec (sql : String)
  | dropDatabase (database : String)
  | createDatabase (database : String)
  | useDatabase (database : String)
  | interruptHandle
  | seedRandom (seed : UInt64)
  deriving DecidableEq

abbrev Response : Request → Type
  | .listTables _ => Except SchemaError (List Identifier)
  | .listColumns _ _ => Except SchemaError (List Column)
  | .listIndexes _ _ => Except SchemaError (List Identifier)
  | .select _ => Except ExecutionError Rows
  | .exec _ => Except ExecutionError Unit
  | .dropDatabase _ => Except ExecutionError Unit
  | .createDatabase _ => Except ExecutionError Unit
  | .useDatabase _ => Except ExecutionError Unit
  | .interruptHandle => Unit
  | .seedRandom _ => Except ExecutionError Unit

namespace Request

/-- The kind of the request, as logs name it. -/
def method : Request → String
  | listTables _ => "list_tables"
  | listColumns .. => "list_columns"
  | listIndexes .. => "list_indexes"
  | select _ => "select"
  | exec _ => "exec"
  | dropDatabase _ => "drop_database"
  | createDatabase _ => "create_database"
  | useDatabase _ => "use_database"
  | interruptHandle => "interrupt_handle"
  | seedRandom _ => "seed_random"

def details : Request → String
  | listTables database => database
  | listColumns database table => database ++ " " ++ table.name
  | listIndexes database table => database ++ " " ++ table.name
  | select sql => sql
  | exec sql => sql
  | dropDatabase database => database
  | createDatabase database => database
  | useDatabase database => database
  | interruptHandle => ""
  | seedRandom seed => toString seed.toNat

/-- The method and, unless they are empty, its details. -/
def text (r : Request) : String :=
  if r.details.isEmpty then r.method else r.method ++ " " ++ r.details

end Request

end PivotedQuery
