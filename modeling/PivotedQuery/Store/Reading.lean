import PivotedQuery.Sql.Nesting
import PivotedQuery.Store.Contents
import PivotedQuery.Random.Source
/-!
Answers to retrievals. A join keeps the combinations of rows on which its condition is true, in the
order that it asks for, and shows the named columns of each; of rows with the same values only the
first is shown if they have to be distinct. Main statement: going through the tables one by one
finds just the combinations of the full product that pass.
-/
namespace PivotedQuery

namespace Value

/-- A total order in which NULL comes first. -/
def sortOrder (a b : Value) : Ordering :=
  match a.order b with
  | some o => o
  | none => compare (!a.isNull) (!b.isNull)

def rowOrder : Row → Row → Ordering
  | [], [] => .eq
  | [], _ => .lt
  | _, [] => .gt
  | a :: as, b :: bs => (a.sortOrder b).then (rowOrder as bs)

end Value

/-- Rows of values, and the declared types of their columns. -/
structure Found where
  types : List (Option String)
  rows : List Row

namespace Found

def ofColumns (columns : List Column) (rows : List Row) : Found :=
  ⟨columns.map fun c => some c.declaredType, rows⟩

def ofTable (r : Relation) : Found := .ofColumns r.columns r.rows

end Found

namespace Relation

/-- The row of the least key, the first one of several. -/
def least : List (Int64 × Row) → Option (Int64 × Row)
  | [] => none
  | a :: rest =>
    match least rest with
    | some b => if b.1.toInt < a.1.toInt then some b else some a
    | none => some a

/-- One row, by a random key for each row in reading order. -/
def sample (r : Relation) : Draw (Option Row) := do
  let keyed ← r.rows.mapM fun row => return (Int64.ofNat (← Draw.wide), row)
  return (least keyed).map (·.2)

end Relation

/-- One row of each table of a join. -/
abbrev Combination := Array (Array Value)

/-- The tables of a join under the names that qualify their columns. -/
abbrev Joined := List (Identifier × Relation)

namespace Joined

/-- A column of the joined tables and its value in a combination. -/
def column (j : Joined) (key : ColumnKey) : Except Refusal (Column × (Combination → Value)) :=
  match j.findIdx? (·.1 == key.table) with
  | none => .error (.noTable key.table)
  | some i =>
    let columns := (j[i]?.map (·.2.columns)).getD []
    match columns.findIdx? (·.name == key.column) with
    | none => .error (.noColumn key.column)
    | some k => match columns[k]? with
      | none => .error (.noColumn key.column)
      | some c => .ok (c, fun rows => (rows.getD i #[]).getD k .null)

def operand (j : Joined) : Operand → Except Refusal (Combination → Value)
  | .column key => return (← j.column key).2
  | .pivot _ => .error .unreadable
  | .literal v => .ok fun _ => v

/-- The condition with its columns looked up once for all combinations. -/
def truth (j : Joined) : Predicate → Except Refusal (Combination → Truth)
  | .compare a op b => do
    let x ← j.operand a
    let y ← j.operand b
    return fun rows => op.apply (x rows) (y rows)
  | .isNull a => do
    let x ← j.operand a
    return fun rows => some (x rows).isNull
  | .notNull a => do
    let x ← j.operand a
    return fun rows => some !(x rows).isNull
  | .not p => do
    let x ← j.truth p
    return fun rows => (x rows).not
  | .and p q => do
    let x ← j.truth p
    let y ← j.truth q
    return fun rows => (x rows).and (y rows)
  | .or p q => do
    let x ← j.truth p
    let y ← j.truth q
    return fun rows => (x rows).or (y rows)
  | .isUnknown p => do
    let x ← j.truth p
    return fun rows => (x rows).isUnknown

/-- All rows of each table. -/
def choices (j : Joined) : List (List (Array Value)) := j.map fun t => t.2.rows.map List.toArray

end Joined

namespace Combination

/-- Every way to go on with one row of each table. Rows of the first table vary slowest. -/
def extended (c : Combination) : List (List (Array Value)) → List Combination
  | [] => [c]
  | rows :: choices => rows.flatMap fun row => extended (c.push row) choices

/-- The ways on which a test is passed, before those that have been found. -/
def passing (test : Combination → Bool) (c : Combination) :
    List (List (Array Value)) → List Combination → List Combination
  | [], found => if test c then c :: found else found
  | rows :: choices, found =>
    rows.foldr (fun row found => passing test (c.push row) choices found) found

theorem passing_eq_filter_append (test : Combination → Bool) (c : Combination)
    (choices : List (List (Array Value))) (found : List Combination) :
    passing test c choices found = (extended c choices).filter test ++ found := by
  induction choices generalizing c found with
  | nil =>
    unfold passing extended
    by_cases h : test c <;> simp [h]
  | cons rows choices ih =>
    unfold passing extended
    induction rows with
    | nil => rfl
    | cons row rows ihr =>
      rw [List.foldr_cons, ihr, ih, List.flatMap_cons, List.filter_append, List.append_assoc]

end Combination

namespace Joined

/-- The combinations on which a test is passed. -/
def passing (j : Joined) (test : Combination → Bool) : List Combination :=
  Combination.passing test #[] j.choices []

/-- How two combinations are sorted by a list of terms. -/
def termsOrder (terms : List ((Combination → Value) × Bool)) (a b : Combination) : Ordering :=
  match terms with
  | [] => .eq
  | (value, descending) :: rest =>
    let o := (value a).sortOrder (value b)
    (if descending then o.swap else o).then (termsOrder rest a b)

def sorted (j : Joined) (terms : List OrderTerm) (found : List Combination) :
    Except Refusal (List Combination) := do
  let terms ← terms.mapM fun t => return ((← j.column t.column).2, t.descending)
  if terms.isEmpty then return found
  else return found.mergeSort fun a b => termsOrder terms a b != .gt

end Joined

/-- Of neighbours with the same values the first. -/
def firsts : List (Nat × Row) → List (Nat × Row)
  | a :: b :: rest =>
    if Value.rowOrder a.2 b.2 == .eq then firsts (a :: rest) else a :: firsts (b :: rest)
  | rows => rows

/-- Of all rows with the same values the first, in the order in which they stood. -/
def distinctRows (rows : List Row) : List Row :=
  let numbered := (List.range rows.length).zip rows
  let alike := numbered.mergeSort fun a b => Value.rowOrder a.2 b.2 != .gt
  ((firsts alike).mergeSort fun a b => a.1 ≤ b.1).map (·.2)

namespace Contents

def joined (c : Contents) (tables : List FromItem) : Except Refusal Joined :=
  tables.mapM fun f => return (f.table, ← c.shown f.table)

def tooManyResults : Refusal := .tooManyColumns (Refusal.logicError "in result set")

def join (c : Contents) (q : Query) : Except Refusal Found := do
  if !q.isReadable then throw .tooDeep
  if maxWidth < q.columns.length then throw tooManyResults
  if maxWidth < q.ordering.length then throw (.tooManyColumns "in ORDER BY")
  let j ← c.joined q.tables
  let columns ← q.columns.mapM j.column
  let condition ← j.truth q.condition
  let found ← j.sorted q.ordering (j.passing fun rows => condition rows == some true)
  let rows := found.map fun rows => columns.map fun column => column.2 rows
  let rows := if q.distinct then distinctRows rows else rows
  return .ofColumns (columns.map (·.1)) rows

/-- Without a source of random keys the sample is the first row. -/
def sample (r : Relation) (random : Option Source) : Option Row × Option Source :=
  match random with
  | none => (r.rows.head?, none)
  | some source =>
    match r.sample source with
    | (.ok row, source) => (row, some source)
    | (.error _, source) => (none, some source)

/-- The rows, and the source of random keys after the keys that have been drawn. -/
def retrieve (c : Contents) (random : Option Source) : Sql.Retrieval →
    Except Refusal Found × Option Source
  | .scan table => ((c.shown table).map Found.ofTable, random)
  | .sample table =>
    match c.shown table with
    | .error e => (.error e, random)
    | .ok r =>
      let (row, random) := sample r random
      (.ok (.ofColumns r.columns row.toList), random)
  | .literals values =>
    if maxWidth < values.length then (.error tooManyResults, random)
    else (.ok ⟨values.map fun _ => none, [values]⟩, random)
  | .join q => (c.join q, random)

end Contents

end PivotedQuery
