import PivotedQuery.Sql.ColumnDefinition
import PivotedQuery.Statement.Basic
/-!
The statements that a store understands, written plainly and read from their text.
-/
namespace PivotedQuery.Sql

open Reader

inductive Command
  | createTable (name : Identifier) (columns : List Column) (keys : List Key)
  | createView (name source : Identifier)
  | createIndex (name table : Identifier) (columns : List Identifier) (unique : Bool)
  /-- Without column names the values are those of all columns in order. -/
  | insert (table : Identifier) (columns : List Identifier) (rows : List (List Value))
  deriving DecidableEq

inductive Retrieval
  | scan (table : Identifier)
  /-- One row at random. -/
  | sample (table : Identifier)
  | literals (values : List Value)
  | join (q : Query)
  deriving DecidableEq

def Retrieval.needsSchema : Retrieval → Bool
  | literals _ => false
  | _ => true

open Query (commaList)

def namesSql (names : List Identifier) : String :=
  "(" ++ commaList (names.map Identifier.quoted) ++ ")"

def Command.sql : Command → String
  | createTable name columns keys =>
    "CREATE TABLE " ++ name.quoted ++ " (" ++ commaList (definitionsSql columns keys) ++ ")"
  | createView name source => "CREATE VIEW " ++ name.quoted ++ " AS SELECT * FROM " ++ source.quoted
  | createIndex name table columns unique =>
    "CREATE " ++ (if unique then "UNIQUE " else "") ++ "INDEX " ++ name.quoted ++ " ON " ++
      table.quoted ++ " " ++ namesSql columns
  | insert table columns rows =>
    "INSERT INTO " ++ table.quoted ++ (if columns.isEmpty then "" else " " ++ namesSql columns) ++
      " VALUES " ++ commaList (rows.map Statement.rowSql)

def Retrieval.sql : Retrieval → String
  | scan table => "SELECT * FROM " ++ table.quoted
  | sample table => "SELECT * FROM " ++ table.quoted ++ " ORDER BY RANDOM() LIMIT 1"
  | literals values => "SELECT " ++ commaList (values.map Value.literal)
  | join q => q.sql

def createTable : Reader Command := do
  word "CREATE TABLE "
  let table ← name
  word " ("
  let (columns, keys) ← columnDefinitions
  word ")"
  return .createTable table columns keys

def createView : Reader Command := do
  word "CREATE VIEW "
  let view ← name
  word " AS SELECT * FROM "
  return .createView view (← name)

def indexColumn : Reader Identifier := do
  let column ← name
  let _ ← either (do word " ASC"; return true) (optional " DESC")
  return column

def createIndex : Reader Command := do
  word "CREATE "
  let unique ← optional "UNIQUE "
  word "INDEX "
  let index ← name
  word " ON "
  let table ← name
  word " ("
  let columns ← list indexColumn
  word ")"
  return .createIndex index table columns unique

def row : Reader (List Value) := do
  word "("
  let values ← list literal
  word ")"
  return values

def columnList : Reader (List Identifier) := do
  word " ("
  let columns ← list name
  word ")"
  return columns

def insert : Reader Command := do
  word "INSERT INTO "
  let table ← name
  let columns ← either columnList (return [])
  word " VALUES "
  return .insert table columns (← list row)

def command : Reader Command := either createTable (either createView (either createIndex insert))

def scan : Reader Retrieval := do
  word "SELECT * FROM "
  let table ← name
  if ← optional " ORDER BY RANDOM() LIMIT 1" then return .sample table
  else return .scan table

def literals : Reader Retrieval := do
  word "SELECT "
  return .literals (← list literal)

def retrieval : Reader Retrieval := either scan (either (return .join (← query)) literals)

def command? (sql : String) : Option Command := all command sql

def retrieval? (sql : String) : Option Retrieval := all retrieval sql

end PivotedQuery.Sql
