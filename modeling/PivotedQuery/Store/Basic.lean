import PivotedQuery.Dialogue.Run
import PivotedQuery.Random.ChaCha
import PivotedQuery.Store.Prepared
/-!
A store that hosts one working database at a time. The database is registered when it is created,
its schema is shown only while it is selected, and dropping it leaves nothing.
-/
namespace PivotedQuery

structure Store where
  contents : Contents := {}
  created : Option String := none
  current : Option String := none
  /-- Random keys for samples, once a seed has been set. -/
  random : Option Source := none
  /-- Kept statements, if statements are kept. -/
  statements : Option Prepared := none
  readOnly : Bool := false
  /-- What the store was opened on holds no database. -/
  damaged : Bool := false

namespace Store

variable {α : Type}

def schemaError (what : String) (r : Refusal) : SchemaError := .query what r.message

def failed (sql : String) (r : Refusal) : ExecutionError := .failed sql r.message

/-- What the schema of the current database shows. -/
def show? (s : Store) (database what : String) (shown : Except Refusal α) : Except SchemaError α :=
  if s.current ≠ some database then .error (.unknownDatabase database)
  else if s.damaged then .error (schemaError what .damaged)
  else shown.mapError (schemaError what)

def listTables (s : Store) (database : String) : Except SchemaError (List Identifier) :=
  s.show? database ("table list of " ++ database) (.ok s.contents.tableNames)

/-- No statement can ask for a name that holds a NUL. -/
def asked (table : Identifier) (shown : Except Refusal α) : Except Refusal α :=
  if table.name.contains '\x00' then .error .unreadable else shown

def listColumns (s : Store) (database : String) (table : Identifier) :
    Except SchemaError (List Column) :=
  s.show? database ("columns of " ++ database ++ "." ++ table.name)
    (asked table (s.contents.columnsOf table))

def listIndexes (s : Store) (database : String) (table : Identifier) :
    Except SchemaError (List Identifier) :=
  s.show? database ("indexes of " ++ database ++ "." ++ table.name)
    (asked table (.ok ((s.contents.indexesOf table).map (·.name))))

/-- Reads from a damaged store only what needs no schema. -/
def retrieve (s : Store) (r : Sql.Retrieval) : Except Refusal Found × Store :=
  if s.damaged && r.needsSchema then (.error .damaged, s)
  else
    let (found, random) := s.contents.retrieve s.random r
    (found, { s with random })

/-- The cells of what has been found, by a kept statement if statements are kept. -/
def typed (s : Store) (sql : String) (found : Except Refusal Found) : Except Refusal Rows × Store :=
  match s.statements with
  | none => (found.bind fun f => f.typed f.types, s)
  | some p =>
    let (rows, p) := p.answer sql found
    (rows, { s with statements := some p })

def select (s : Store) (sql : String) : Except ExecutionError Rows × Store :=
  match Sql.retrieval? sql with
  | none => (.error (failed sql .unreadable), s)
  | some r =>
    let (found, s) := s.retrieve r
    let (rows, s) := s.typed sql found
    (rows.mapError (failed sql), s)

def execute (s : Store) (sql : String) (c : Sql.Command) : Except Refusal Store :=
  if s.damaged then .error .damaged
  else if s.readOnly then .error .readOnly
  else (s.contents.execute sql c).map fun contents => { s with contents }

def exec (s : Store) (sql : String) : Except ExecutionError Unit × Store :=
  match Sql.command? sql with
  | none => (.error (failed sql .unreadable), s)
  | some c =>
    match s.execute sql c with
    | .error e => (.error (failed sql e), s)
    | .ok s => (.ok (), s)

/-- The query for the objects to drop. -/
def objectsSql : String := "SELECT type, name FROM sqlite_master"

/-- One statement for each item; the first that fails ends it and leaves the database registered. -/
def dropItems : List Item → Store → Except ExecutionError Unit × Store
  | [], s => (.ok (), { s with created := none, current := none })
  | i :: rest, s =>
    if s.readOnly then (.error (failed i.dropSql .readOnly), s)
    else dropItems rest { s with contents := s.contents.drop i.name }

/-- A database that is not the registered one is left alone. -/
def dropDatabase (s : Store) (database : String) : Except ExecutionError Unit × Store :=
  if s.created.any (· ≠ database) then (.ok (), s)
  else if s.damaged then (.error (failed objectsSql .damaged), s)
  else dropItems s.contents.userItems s

def createDatabase (s : Store) (database : String) : Except ExecutionError Unit × Store :=
  match s.created with
  | some other =>
    (.error (.failed ("create database " ++ database) ("database " ++ other ++ " already exists")), s)
  | none => (.ok (), { s with created := some database })

def useDatabase (s : Store) (database : String) : Except ExecutionError Unit × Store :=
  if s.created ≠ some database then
    (.error (.failed ("use " ++ database) ("unknown database " ++ database)), s)
  else (.ok (), { s with current := some database })

def answer (s : Store) : (r : Request) → Response r × Store
  | .listTables database => (s.listTables database, s)
  | .listColumns database table => (s.listColumns database table, s)
  | .listIndexes database table => (s.listIndexes database table, s)
  | .select sql => s.select sql
  | .exec sql => s.exec sql
  | .dropDatabase database => s.dropDatabase database
  | .createDatabase database => s.createDatabase database
  | .useDatabase database => s.useDatabase database
  | .interruptHandle => ((), s)
  | .seedRandom seed => (.ok (), { s with random := some (.seeded seed) })

/-- The statements that dropping a database runs, up to the first that fails. -/
def dropped (s : Store) : Request → List Event
  | .dropDatabase database =>
    if s.created.any (· ≠ database) || s.damaged then []
    else
      let items := if s.readOnly then s.contents.userItems.take 1 else s.contents.userItems
      items.map fun i => .objectDropped i.dropSql
  | _ => []

def backend : Backend Store where
  answer w r :=
    let (reply, state) := w.state.answer r
    ({ reply := some reply, reports := w.state.dropped r }, state)

end Store

end PivotedQuery
