import PivotedQuery.Predicate.Basic
/-!
Pivoted queries: a cross join filtered by a condition that holds for the pivot row.
-/
namespace PivotedQuery

structure FromItem where
  table : Identifier
  /-- Asks for a full scan of the table. -/
  notIndexed : Bool := false
  deriving DecidableEq

def FromItem.sql (f : FromItem) : String :=
  f.table.quoted ++ if f.notIndexed then " NOT INDEXED" else ""

structure OrderTerm where
  column : ColumnKey
  descending : Bool := false
  deriving DecidableEq

def OrderTerm.sql (t : OrderTerm) : String :=
  t.column.qualified ++ if t.descending then " DESC" else " ASC"

structure Query where
  distinct : Bool
  columns : List ColumnKey
  tables : List FromItem
  condition : Predicate
  ordering : List OrderTerm
  deriving DecidableEq

/-- The text of a query and the key of each of its output columns. -/
structure RenderedQuery where
  sql : String
  columns : List ColumnKey
  deriving DecidableEq

namespace Query

def commaList (items : List String) : String := String.intercalate ", " items

def sql (q : Query) : String :=
  "SELECT " ++ (if q.distinct then "DISTINCT " else "") ++
    commaList (q.columns.map ColumnKey.qualified) ++
    " FROM " ++ commaList (q.tables.map FromItem.sql) ++
    " WHERE " ++ q.condition.sql ++
    if q.ordering.isEmpty then "" else " ORDER BY " ++ commaList (q.ordering.map OrderTerm.sql)

/-- Keys that the query mentions: output columns, then ordering, then condition. -/
def keys (q : Query) : List ColumnKey :=
  q.columns ++ q.ordering.map (·.column) ++ q.condition.keys

def knows (q : Query) (tables : List Table) (key : ColumnKey) : Bool :=
  (lookupColumn tables key).isSome && q.tables.any (·.table == key.table)

/-- The condition with the pivot row's values in it, made true on the pivot row. -/
def rectified (q : Query) (pivot : PivotRow) : Except SynthesisError Query := do
  let condition ← q.condition.resolve pivot
  return { q with condition := ← condition.rectify pivot }

def render (q : Query) (tables : List Table) (pivot : PivotRow) :
    Except SynthesisError RenderedQuery :=
  if q.tables.isEmpty then .error .noTables
  else match q.keys.find? (!q.knows tables ·) with
    | some key => .error (.unknownColumn key)
    | none => match q.columns.find? (!pivot.contains ·) with
      | some key => .error (.missingPivotValue key)
      | none => (q.rectified pivot).map fun r => ⟨r.sql, r.columns⟩

end Query

end PivotedQuery
