/-!
Pages of a store. The schema has the first one, and each table and index starts on one of its own.
-/
namespace PivotedQuery

structure Pages where
  count : Nat := 1
  /-- The free page that lists the other free pages. -/
  trunk : Option Nat := none
  leaves : List Nat := []

namespace Pages

/-- The first of the listed pages, then the page of the list, then a new one. -/
def take (p : Pages) : Nat × Pages :=
  match p.leaves.min?, p.trunk with
  | some page, _ => (page, { p with leaves := p.leaves.erase page })
  | none, some page => (page, { p with trunk := none })
  | none, none => (p.count + 1, { p with count := p.count + 1 })

def release (p : Pages) (page : Nat) : Pages :=
  match p.trunk with
  | some _ => { p with leaves := page :: p.leaves }
  | none => { p with trunk := some page }

end Pages

end PivotedQuery
