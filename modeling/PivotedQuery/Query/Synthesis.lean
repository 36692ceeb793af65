import PivotedQuery.Query.Basic
import PivotedQuery.Random.Choice
import PivotedQuery.Random.Value
/-!
Random pivoted queries. A comparison is between a column and its own pivot value, a literal drawn
for its affinity, or another column of the same affinity, so that none of them needs a conversion.
-/
namespace PivotedQuery

/-- A column that a condition may use, with the affinity that decides what it is compared with. -/
structure TypedKey where
  key : ColumnKey
  affinity : Affinity

def Table.typedKeys (t : Table) : List TypedKey :=
  t.columns.map fun c => ⟨⟨t.name, c.name⟩, c.affinity⟩

namespace Synthesis

def tenths (n : Nat) : Real64 := .ofRatio false n 10

def half : Real64 := .ofRatio false 1 2

def peers (columns : List TypedKey) (c : TypedKey) : List TypedKey :=
  columns.filter fun d => d.affinity == c.affinity && d.key != c.key

def comparison (column other : Operand) : Draw Predicate := do
  let op ← Draw.pick Comparison.all
  let swapped ← Draw.chance half
  return if swapped then .compare other op column else .compare column op other

def leaf (columns : List TypedKey) : Draw Predicate := do
  let c ← Draw.pick columns
  let column := Operand.column c.key
  let kind ← Draw.below .narrow 10
  if kind ≤ 4 then comparison column (.pivot c.key)
  else if kind ≤ 6 then comparison column (.literal (← Draw.value c.affinity))
  else if kind = 7 then
    if (peers columns c).isEmpty then comparison column (.pivot c.key)
    else comparison column (.column (← Draw.pick (peers columns c)).key)
  else if kind = 8 then return .isNull column
  else return .notNull column

/-- No deeper than `depth`, and a leaf at depth zero. -/
def predicate (columns : List TypedKey) : (depth : Nat) → Draw Predicate
  | 0 => leaf columns
  | 1 => leaf columns
  | depth + 2 => do
    if ← Draw.chance (tenths 3) then leaf columns
    else match ← Draw.below .narrow 4 with
      | 0 => return .not (← predicate columns (depth + 1))
      | 1 =>
        let p ← predicate columns (depth + 1)
        let q ← predicate columns (depth + 1)
        return .and p q
      | 2 =>
        let p ← predicate columns (depth + 1)
        let q ← predicate columns (depth + 1)
        return .or p q
      | _ => return .isUnknown (← predicate columns (depth + 1))

/-- Only hinted queries are drawn for. -/
def fromItem (hints : Bool) (t : Table) : Draw FromItem :=
  if hints then return ⟨t.name, ← Draw.chance (tenths 3)⟩ else return ⟨t.name, false⟩

def outputColumns (keys : List ColumnKey) : Draw (List ColumnKey) := do
  let shuffled ← Draw.shuffle keys
  let count ← Draw.size 1 shuffled.length
  return shuffled.take count

def orderTerm (key : ColumnKey) : Draw OrderTerm := return ⟨key, ← Draw.chance half⟩

def orderTerms (columns : List ColumnKey) : Draw (List OrderTerm) := do
  if ← Draw.chance (tenths 3) then
    let count ← Draw.size 1 (min columns.length 2)
    (← Draw.choose count columns).mapM orderTerm
  else return []

/-- The wrapping that makes the condition true may add one level. -/
def conditionDepth (maxDepth : Nat) : Nat := max (maxDepth - 1) 1

end Synthesis

namespace Query

open Synthesis

def draw (hints : Bool) (maxDepth : Nat) (tables : List Table) :
    Draw (Except SynthesisError Query) :=
  let columns := tables.flatMap Table.typedKeys
  if tables.isEmpty then return .error .noTables
  else if columns.isEmpty then return .error .noColumns
  else do
    let items ← tables.mapM (fromItem hints)
    let output ← outputColumns (columns.map (·.key))
    let order ← orderTerms output
    let condition ← predicate columns (conditionDepth maxDepth)
    let distinct ← Draw.chance (tenths 2)
    return .ok ⟨distinct, output, items, condition, order⟩

end Query

end PivotedQuery
