import PivotedQuery.Store.Reading
/-!
Statements that are kept ready for their next use. A kept statement finds rows as they are now, but
reads them by the columns that it had at its last use. Main statement: a bounded number is kept.
-/
namespace PivotedQuery

/-- The cells of a row that is read by the given types; a row that is too short is refused. -/
def Row.typed (types : List (Option String)) (row : Row) : Except Refusal (List Cell) :=
  if row.length < types.length then .error (.width types.length row.length)
  else .ok ((types.zip row).map fun (type, value) => ⟨value, .resolve type value⟩)

def Found.typed (types : List (Option String)) (f : Found) : Except Refusal Rows :=
  f.rows.mapM (Row.typed types)

/-- Statements by their text with the types of their columns, the most recently used one first. -/
structure Prepared where
  recent : List (String × List (Option String)) := []

namespace Prepared

def capacity : Nat := 16

def keep (p : Prepared) (sql : String) (types : List (Option String)) : Prepared :=
  ⟨((sql, types) :: p.recent.filter (·.1 ≠ sql)).take capacity⟩

/-- What a statement answers. One that fails is kept only if it has been before. -/
def answer (p : Prepared) (sql : String) (found : Except Refusal Found) :
    Except Refusal Rows × Prepared :=
  match p.recent.lookup sql, found with
  | none, .error e => (.error e, p)
  | some types, .error e => (.error e, p.keep sql types)
  | types, .ok found => (found.typed (types.getD found.types), p.keep sql found.types)

theorem length_keep_le (p : Prepared) (sql : String) (types : List (Option String)) :
    (p.keep sql types).recent.length ≤ capacity := by
  simp only [keep, List.length_take]
  omega

end Prepared

end PivotedQuery
