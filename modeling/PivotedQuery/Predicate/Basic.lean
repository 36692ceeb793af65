import PivotedQuery.Pivot.Row
import PivotedQuery.Predicate.Comparison
import PivotedQuery.Value.Literal
/-!
Conditions over columns, with placeholders for the pivot row's values: evaluation in three-valued
logic, substitution of the placeholders, and the wrapping that makes a condition true on a row.
-/
namespace PivotedQuery

inductive Operand
  | column (key : ColumnKey)
  | pivot (key : ColumnKey)
  | literal (v : Value)
  deriving DecidableEq

inductive Predicate
  | compare (a : Operand) (op : Comparison) (b : Operand)
  | isNull (a : Operand)
  | notNull (a : Operand)
  | not (p : Predicate)
  | and (p q : Predicate)
  | or (p q : Predicate)
  | isUnknown (p : Predicate)
  deriving DecidableEq

def needed (row : ColumnKey → Option Value) (key : ColumnKey) : Except SynthesisError Value :=
  match row key with
  | some v => .ok v
  | none => .error (.missingPivotValue key)

namespace Operand

/-- Columns are read from `row` and placeholders from `pivot`. -/
def valueIn (row pivot : ColumnKey → Option Value) : Operand → Except SynthesisError Value
  | column key => needed row key
  | .pivot key => needed pivot key
  | literal v => .ok v

def key? : Operand → Option ColumnKey
  | column key => some key
  | pivot key => some key
  | literal _ => none

def resolve (p : PivotRow) : Operand → Except SynthesisError Operand
  | pivot key => (needed p.value? key).map literal
  | a => .ok a

def sql : Operand → String
  | column key => key.qualified
  | pivot key => "pivot(" ++ key.text ++ ")"
  | literal v => v.literal

end Operand

namespace Predicate

/-- Both sides of a connective are evaluated, the left one first. -/
def evalIn (row pivot : ColumnKey → Option Value) : Predicate → Except SynthesisError Truth
  | compare a op b => do
    let x ← a.valueIn row pivot
    let y ← b.valueIn row pivot
    return op.apply x y
  | isNull a => return some (← a.valueIn row pivot).isNull
  | notNull a => return some !(← a.valueIn row pivot).isNull
  | not p => return (← p.evalIn row pivot).not
  | and p q => do
    let x ← p.evalIn row pivot
    let y ← q.evalIn row pivot
    return x.and y
  | or p q => do
    let x ← p.evalIn row pivot
    let y ← q.evalIn row pivot
    return x.or y
  | isUnknown p => return (← p.evalIn row pivot).isUnknown

def eval (p : Predicate) (row : PivotRow) : Except SynthesisError Truth :=
  p.evalIn row.value? row.value?

def depth : Predicate → Nat
  | compare .. => 1
  | isNull _ => 1
  | notNull _ => 1
  | not p => 1 + p.depth
  | and p q => 1 + max p.depth q.depth
  | or p q => 1 + max p.depth q.depth
  | isUnknown p => 1 + p.depth

/-- Keys of columns and placeholders in order of appearance. -/
def keys : Predicate → List ColumnKey
  | compare a _ b => a.key?.toList ++ b.key?.toList
  | isNull a => a.key?.toList
  | notNull a => a.key?.toList
  | not p => p.keys
  | and p q => p.keys ++ q.keys
  | or p q => p.keys ++ q.keys
  | isUnknown p => p.keys

/-- Every placeholder gives way to the pivot row's value. -/
def resolve (row : PivotRow) : Predicate → Except SynthesisError Predicate
  | compare a op b => do
    let x ← a.resolve row
    let y ← b.resolve row
    return compare x op y
  | isNull a => return isNull (← a.resolve row)
  | notNull a => return notNull (← a.resolve row)
  | not p => return not (← p.resolve row)
  | and p q => do
    let x ← p.resolve row
    let y ← q.resolve row
    return and x y
  | or p q => do
    let x ← p.resolve row
    let y ← q.resolve row
    return or x y
  | isUnknown p => return isUnknown (← p.resolve row)

def wrap (p : Predicate) : Truth → Predicate
  | some true => p
  | some false => not p
  | none => isUnknown p

/-- The condition, wrapped so that it is true on `row`. -/
def rectify (p : Predicate) (row : PivotRow) : Except SynthesisError Predicate :=
  return p.wrap (← p.eval row)

/-- Always in parentheses, so that the text has the structure of the tree. -/
def sql : Predicate → String
  | compare a op b => "(" ++ a.sql ++ " " ++ op.sql ++ " " ++ b.sql ++ ")"
  | isNull a => "(" ++ a.sql ++ " IS NULL)"
  | notNull a => "(" ++ a.sql ++ " IS NOT NULL)"
  | not p => "(NOT " ++ p.sql ++ ")"
  | and p q => "(" ++ p.sql ++ " AND " ++ q.sql ++ ")"
  | or p q => "(" ++ p.sql ++ " OR " ++ q.sql ++ ")"
  | isUnknown p => "(" ++ p.sql ++ " IS NULL)"

end Predicate

end PivotedQuery
