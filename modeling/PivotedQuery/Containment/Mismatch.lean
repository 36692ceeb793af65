import PivotedQuery.Pivot.Row
/-!
Containment of the pivot row in a result, and the report on a result that lacks it.
-/
namespace PivotedQuery

/-- At least as wide as the output, with the pivot row's cell at the place of each column. -/
def rowMatches (pivot : PivotRow) (columns : List ColumnKey) (row : List Cell) : Bool :=
  columns.length ≤ row.length &&
    (columns.zip row).all fun (key, cell) => match pivot.get? key with
      | some expected => expected == cell
      | none => false

/-- Some single row matches. -/
def verify (pivot : PivotRow) (columns : List ColumnKey) (rows : Rows) : Bool :=
  rows.any (rowMatches pivot columns)

structure Mismatch where
  sql : String
  pivot : PivotRow
  columns : List ColumnKey
  rows : Rows

namespace Mismatch

def columnLine (i : Nat) (key : ColumnKey) : String := toString i ++ ": " ++ key.text ++ "\n"

def rowLine (i : Nat) (row : List Cell) : String :=
  "line " ++ toString i ++ ": " ++ String.intercalate " | " (row.map Cell.text) ++ "\n"

def text (m : Mismatch) : String :=
  "SQL: " ++ m.sql ++ "\n--- ORIGIN ROWS ---\n" ++ m.pivot.text ++ "--- COLUMNS ---\n" ++
    String.join (m.columns.mapIdx columnLine) ++
    "--- DATA --- count: " ++ toString m.rows.length ++ "\n" ++
    String.join (m.rows.mapIdx rowLine)

end Mismatch

end PivotedQuery
