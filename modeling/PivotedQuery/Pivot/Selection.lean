import PivotedQuery.Dialogue.Basic
import PivotedQuery.Random.Choice
/-!
Choosing a pivot: one random row from each of a random selection of tables. The selection is drawn
before the database is asked for anything, so it does not depend on any answer.
-/
namespace PivotedQuery.Pivot

/-- All tables in a random order, and how many of them to use. -/
structure Selection where
  tables : List Table
  count : Nat

def Selection.chosen (s : Selection) : List Table := s.tables.take s.count

def Selection.draw (tables : List Table) : Draw Selection := do
  let count ← Draw.size 1 tables.length
  return ⟨← Draw.shuffle tables, count⟩

def rowSql (table : Table) : String :=
  "SELECT * FROM " ++ table.name.quoted ++ " ORDER BY RANDOM() LIMIT 1"

/-- Cells in column order, under the keys of the table. -/
def addCells (pivot : PivotRow) : List (ColumnKey × Cell) → Except PivotError PivotRow
  | [] => .ok pivot
  | (key, cell) :: rest => do addCells (← pivot.insert key cell) rest

def addRow (pivot : PivotRow) (table : Table) (row : List Cell) : Except PivotError PivotRow :=
  if row.length ≠ table.columns.length then
    .error (.rowShape table.name.name table.columns.length row.length)
  else addCells pivot (table.keys.zip row)

/-- The pivot row together with the tables that it has a row of. -/
structure Choice where
  pivot : PivotRow := .empty
  used : List Table := []

/-- Tables without a row are left out. -/
def fetch (c : Choice) : List Table → Dialogue (Except PivotError Choice)
  | [] => return .ok c
  | table :: tables => do
    match ← Dialogue.call (.select (rowSql table)) with
    | .error e => return .error (.execution e)
    | .ok [] =>
      Dialogue.log (.tableEmpty table.name)
      fetch c tables
    | .ok (row :: _) =>
      match addRow c.pivot table row with
      | .error e => return .error e
      | .ok pivot => fetch ⟨pivot, c.used ++ [table]⟩ tables

/-- The selection that was drawn and the choice made from it; no draw without tables. -/
def choose (tables : List Table) : Draw (List Table × Dialogue (Except PivotError Choice)) :=
  if tables.isEmpty then return (tables, return .error .noTables)
  else do
    let selection ← Selection.draw tables
    return (selection.tables, fetch {} selection.chosen)

end PivotedQuery.Pivot
