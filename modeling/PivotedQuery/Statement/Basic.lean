import PivotedQuery.Query.Basic
/-!
Statements that fill a database, and their SQL text.
-/
namespace PivotedQuery

inductive StatementKind
  | createTable
  | createIndex
  | insert
  deriving DecidableEq, Repr

def StatementKind.name : StatementKind → String
  | createTable => "CreateTable"
  | createIndex => "CreateIndex"
  | insert => "Insert"

structure IndexColumn where
  name : Identifier
  descending : Bool := false
  deriving DecidableEq

def IndexColumn.sql (c : IndexColumn) : String :=
  c.name.quoted ++ if c.descending then " DESC" else " ASC"

inductive Statement
  /-- The first column is the primary key if one is asked for. -/
  | createTable (table : Identifier) (columns : List Column) (primaryKey : Bool)
  | createIndex (name table : Identifier) (columns : List IndexColumn) (unique : Bool)
  | insert (table : Identifier) (columns : List Identifier) (rows : List (List Value))
  deriving DecidableEq

namespace Statement

open Query (commaList)

def kind : Statement → StatementKind
  | createTable .. => .createTable
  | createIndex .. => .createIndex
  | insert .. => .insert

def columnDefinitions (columns : List Column) (primaryKey : Bool) : List String :=
  match columns with
  | [] => []
  | c :: cs => (c.sql ++ if primaryKey then " PRIMARY KEY" else "") :: cs.map Column.sql

def rowSql (row : List Value) : String := "(" ++ commaList (row.map Value.literal) ++ ")"

def sql : Statement → String
  | createTable table columns primaryKey =>
    "CREATE TABLE " ++ table.quoted ++ " (" ++ commaList (columnDefinitions columns primaryKey) ++ ")"
  | createIndex name table columns unique =>
    "CREATE " ++ (if unique then "UNIQUE " else "") ++ "INDEX " ++ name.quoted ++ " ON " ++
      table.quoted ++ " (" ++ commaList (columns.map IndexColumn.sql) ++ ")"
  | insert table columns rows =>
    "INSERT INTO " ++ table.quoted ++ " (" ++ commaList (columns.map Identifier.quoted) ++
      ") VALUES " ++ commaList (rows.map rowSql)

end Statement

end PivotedQuery
