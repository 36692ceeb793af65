import PivotedQuery.Schema.Table
import PivotedQuery.Store.Conversion
import PivotedQuery.Store.Refusal
/-!
Tables with their rows. Values are brought to the affinity of their column when they are stored,
and a row gets in only if it breaks no constraint.
-/
namespace PivotedQuery

abbrev Row := List Value

/-- An index is unique if no two rows may have the same values in its columns. -/
structure Index where
  name : Identifier
  table : Identifier
  columns : List Identifier
  unique : Bool
  deriving DecidableEq

structure Relation where
  name : Identifier
  columns : List Column
  /-- The place of the primary key. -/
  primaryKey : Option Nat := none
  /-- In reading order. -/
  rows : List Row := []

namespace Relation

/-- The place of an integer primary key, which is the number of the row. -/
def numberPlace (r : Relation) : Option Nat :=
  r.primaryKey.filter fun place =>
    r.columns[place]?.any fun c => c.declaredType.map Char.toUpper == "INTEGER"

/-- The affinity of what is stored: only ASCII letters have capitals, and no blanks are left. -/
def affinity (c : Column) : Affinity :=
  .ofCapitals (fun _ => false) (c.declaredType.map Char.toUpper).toList

/-- The columns as the schema shows them: no primary key is nullable. -/
def described (r : Relation) : List Column :=
  match r.primaryKey with
  | some place => r.columns.modify place ({ · with nullable := false })
  | none => r.columns

def number (place : Nat) (row : Row) : Int :=
  match row[place]? with
  | some (.integer i) => i.toInt
  | _ => 0

/-- The least positive number that no row has. -/
def unusedNumber (taken : List Int) : Int :=
  (((List.range (taken.length + 1)).map fun i => Int.ofNat (i + 1)).find? (!taken.contains ·)).getD 1

/-- One more than the greatest number; any that is left if that one is the greatest of all. -/
def nextNumber (r : Relation) (place : Nat) : Int :=
  match r.rows.getLast? with
  | none => 1
  | some row =>
    if number place row < Int64.maxValue.toInt then number place row + 1
    else unusedNumber (r.rows.map (number place))

/-- The row with its number in place of a NULL. -/
def withNumber (r : Relation) (place : Nat) (row : Row) : Except Refusal Row :=
  match row[place]? with
  | some .null => .ok (row.set place (.integer (Int64.ofInt (r.nextNumber place))))
  | some (.integer _) => .ok row
  | _ => .error .notAnInteger

/-- The first column that takes no NULL and gets one. -/
def missing? (columns : List Column) (row : Row) : Option Column :=
  ((columns.zip row).find? fun (c, v) => !c.nullable && v.isNull).map (·.1)

/-- Values of the named columns; what names no column is a constant. -/
def entries (columns : List Column) (names : List Identifier) (row : Row) : Row :=
  names.map fun n => match (columns.zip row).find? (·.1.name == n) with
    | some (_, v) => v
    | none => .text n.name

/-- Rows with a NULL collide with nothing. -/
def collide (a b : Row) : Bool := (a.zip b).all fun (v, w) => v.order w == some .eq

/-- How a collision in an index is told: by the columns if all of its names are columns. -/
def violation (r : Relation) (i : Index) : Refusal :=
  match i.columns.mapM fun n => r.columns.find? (·.name == n) with
  | some columns => .collision r.name (columns.map (·.name))
  | none => .indexCollision i.name

def collision? (r : Relation) (indexes : List Index) (row : Row) : Option Index :=
  (indexes.filter (·.unique)).find? fun i =>
    r.rows.any fun other => collide (entries r.columns i.columns other) (entries r.columns i.columns row)

def insertNumbered (place : Nat) (row : Row) : List Row → List Row
  | [] => [row]
  | other :: rest =>
    if number place row < number place other then row :: other :: rest
    else other :: insertNumbered place row rest

def storedRow (r : Relation) (row : Row) : Row :=
  (r.columns.zip row).map fun (c, v) => v.stored (affinity c)

/-- Columns that are checked for NULL; a row's number is filled in instead. -/
def checked (r : Relation) : List Column :=
  match r.numberPlace with
  | some place => r.columns.modify place ({ · with nullable := true })
  | none => r.columns

/-- The row as it is stored, with its number, and the rows with it at its place. -/
def placed (r : Relation) (row : Row) : Except Refusal (Row × List Row) := do
  match r.numberPlace with
  | none => return (row, r.rows ++ [row])
  | some place =>
    let row ← r.withNumber place row
    if r.rows.any fun other => number place other == number place row then
      throw (.collision r.name (r.columns[place]?.toList.map (·.name)))
    return (row, insertNumbered place row r.rows)

def insert (indexes : List Index) (r : Relation) (row : Row) : Except Refusal Relation := do
  if row.length ≠ r.columns.length then throw (.width r.columns.length row.length)
  let row := r.storedRow row
  match missing? r.checked row with
  | some c => throw (.nullValue r.name c.name)
  | none => pure ()
  let (row, rows) ← r.placed row
  match r.collision? indexes row with
  | some i => throw (r.violation i)
  | none => return { r with rows }

end Relation

end PivotedQuery
