import PivotedQuery.Dialogue.Basic
/-!
The containment check: the rows of a query whose condition holds for the pivot row must contain
it. A result without it shows a bug of the database.
-/
namespace PivotedQuery

inductive Verdict
  | pass
  | fail (m : Mismatch)

namespace Containment

def judge (pivot : PivotRow) (query : RenderedQuery) (rows : Rows) : Dialogue Verdict :=
  if verify pivot query.columns rows then do
    Dialogue.log (.pivotContained query.sql)
    return .pass
  else do
    let mismatch : Mismatch := ⟨query.sql, pivot, query.columns, rows⟩
    Dialogue.log (.pivotMissing mismatch)
    return .fail mismatch

/-- A query that returns a column unknown to the pivot row is not sent. -/
def check (pivot : PivotRow) (query : RenderedQuery) : Dialogue (Except Fault Verdict) :=
  match query.columns.find? (!pivot.contains ·) with
  | some key => return .error (.synthesis (.missingPivotValue key))
  | none => do
    Dialogue.log (.pivotRow pivot)
    Dialogue.log (.outputColumns query.columns)
    Dialogue.log (.querySent query.sql)
    match ← Dialogue.call (.select query.sql) with
    | .error e => return .error (.execution e)
    | .ok rows => return .ok (← judge pivot query rows)

end Containment

end PivotedQuery
