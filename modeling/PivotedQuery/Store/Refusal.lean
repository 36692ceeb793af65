import PivotedQuery.Schema.Identifier
/-!
Why a store does not do what a statement asks for.
-/
namespace PivotedQuery

inductive Refusal
  | damaged
  | readOnly
  | unreadable
  | tooDeep
  | noColumns (table : Identifier)
  | tooManyColumns (place : String)
  | duplicateColumn (column : Identifier)
  | reservedName (name : Identifier)
  | nameTaken (name : Identifier)
  | noTable (name : Identifier)
  | notATable (name : Identifier)
  | noColumn (column : Identifier)
  | width (expected actual : Nat)
  | nullValue (table column : Identifier)
  | notAnInteger
  /-- Another row has the same values in these columns. -/
  | collision (table : Identifier) (columns : List Identifier)
  | indexCollision (index : Identifier)
  deriving DecidableEq

namespace Refusal

def unique (what : String) : String := "UNIQUE constraint failed: " ++ what

/-- A retrieval is refused with the class of the failure after its text. -/
def logicError (text : String) : String := text ++ ": Error code 1: SQL logic error"

def message : Refusal → String
  | damaged => "file is not a database: Error code 26: File opened that is not a database file"
  | readOnly => "attempt to write a readonly database"
  | unreadable => "syntax error"
  | tooDeep => logicError "parser stack overflow"
  | noColumns table => "table " ++ table.name ++ " has no columns"
  | tooManyColumns place => "too many columns " ++ place
  | duplicateColumn column => "duplicate column name: " ++ column.name
  | reservedName name => "object name reserved for internal use: " ++ name.name
  | nameTaken name => "there is already an object named " ++ name.name
  | noTable name => logicError ("no such table: " ++ name.name)
  | notATable name => name.name ++ " is not a table"
  | noColumn column => logicError ("no such column: " ++ column.name)
  | width expected actual =>
    toString expected ++ " columns but " ++ toString actual ++ " values were supplied"
  | nullValue table column => "NOT NULL constraint failed: " ++ table.name ++ "." ++ column.name
  | notAnInteger => "datatype mismatch"
  | collision table columns =>
    unique (String.intercalate ", " (columns.map fun c => table.name ++ "." ++ c.name))
  | indexCollision index => unique ("index " ++ Text.enclose '\x27' index.name)

end Refusal

end PivotedQuery
