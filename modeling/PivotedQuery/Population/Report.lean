import PivotedQuery.Statement.Basic
/-!
Counts of the statements that filled a database.
-/
namespace PivotedQuery

structure KindCounts where
  executed : Nat := 0
  failed : Nat := 0
  deriving DecidableEq, Repr

def KindCounts.record (c : KindCounts) (ok : Bool) : KindCounts :=
  if ok then { c with executed := c.executed + 1 } else { c with failed := c.failed + 1 }

def KindCounts.total (c : KindCounts) : Nat := c.executed + c.failed

structure Report where
  tables : KindCounts := {}
  indexes : KindCounts := {}
  inserts : KindCounts := {}
  deriving DecidableEq, Repr

namespace Report

def counts (r : Report) : StatementKind → KindCounts
  | .createTable => r.tables
  | .createIndex => r.indexes
  | .insert => r.inserts

def record (r : Report) (kind : StatementKind) (ok : Bool) : Report :=
  match kind with
  | .createTable => { r with tables := r.tables.record ok }
  | .createIndex => { r with indexes := r.indexes.record ok }
  | .insert => { r with inserts := r.inserts.record ok }

end Report

end PivotedQuery
