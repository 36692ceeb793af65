import PivotedQuery.Query.Basic
import PivotedQuery.Real64.Extended
/-!
Reading names, literals, conditions and queries from SQL text in the form in which they are
written. Comparisons with `IS NULL` are read as the null tests that they are.
-/
namespace PivotedQuery.Sql

abbrev Reader := StateT (List Char) Option

namespace Reader

variable {α : Type}

def refuse : Reader α := fun _ => none

def word (w : String) : Reader Unit := fun cs => (Text.expect w cs).map fun rest => ((), rest)

/-- Whether the word stands here; it is dropped if so. -/
def optional (w : String) : Reader Bool := fun cs =>
  match Text.expect w cs with
  | some rest => some (true, rest)
  | none => some (false, cs)

/-- The second reader starts where the first one did. -/
def either (a b : Reader α) : Reader α := fun cs =>
  match a cs with
  | some r => some r
  | none => b cs

def ended : Reader Unit := fun cs => if cs.isEmpty then some ((), cs) else none

/-- As many items as there are, at least one, and no more than there are characters. -/
def listUpTo (item : Reader α) : (fuel : Nat) → Reader (List α)
  | 0 => refuse
  | fuel + 1 => do
    let a ← item
    if ← optional ", " then return a :: (← listUpTo item fuel)
    else return [a]

def list (item : Reader α) : Reader (List α) := fun cs => listUpTo item (cs.length + 1) cs

/-- The whole text, which a NUL ends. -/
def all (r : Reader α) (sql : String) : Option α :=
  ((do let a ← r; ended; return a : Reader α).run (sql.toList.takeWhile (· ≠ '\x00'))).map (·.1)

end Reader

open Reader

def name : Reader Identifier := do
  word "\""
  fun cs => (Text.readDoubled '\x22' cs).map fun (s, rest) => (⟨String.ofList s⟩, rest)

/-- Reals are read step by step. -/
def literal : Reader Value := Value.readLiteral Decimal.toRealStepwise

def columnKey : Reader ColumnKey := do
  let table ← name
  word "."
  return ⟨table, ← name⟩

def operand : Reader Operand :=
  either (return .column (← columnKey)) (return .literal (← literal))

/-- An operator between blanks; the longer of two that start alike comes first. -/
def comparison : Reader Comparison :=
  let spelled (op : Comparison) : Reader Comparison := do
    word (" " ++ op.sql ++ " ")
    return op
  [.isNot, .is, .ne, .le, .ge, .eq, .lt, .gt].foldr (fun op => either (spelled op)) refuse

/-- What follows an operand after the opening parenthesis. -/
def comparedTo (a : Operand) : Reader Predicate :=
  either (do word " IS NULL)"; return .isNull a)
    (either (do word " IS NOT NULL)"; return .notNull a)
      (do
        let op ← comparison
        let b ← operand
        word ")"
        return .compare a op b))

def negated (inner : Reader Predicate) : Reader Predicate := do
  word "NOT "
  let p ← inner
  word ")"
  return .not p

/-- A condition and what follows it inside its parentheses. -/
def joined (inner : Reader Predicate) : Reader Predicate := do
  let p ← inner
  if ← optional " IS NULL)" then return .isUnknown p
  else if ← optional " AND " then
    let q ← inner
    word ")"
    return .and p q
  else
    word " OR "
    let q ← inner
    word ")"
    return .or p q

/-- Conditions nested at most so deep. -/
def conditionUpTo : (fuel : Nat) → Reader Predicate
  | 0 => refuse
  | fuel + 1 => do
    word "("
    either (negated (conditionUpTo fuel))
      (either (joined (conditionUpTo fuel)) (do comparedTo (← operand)))

def condition : Reader Predicate := fun cs => conditionUpTo (cs.length + 1) cs

def fromItem : Reader FromItem := do
  let table ← name
  return ⟨table, ← optional " NOT INDEXED"⟩

def orderTerm : Reader OrderTerm := do
  let column ← columnKey
  if ← optional " DESC" then return ⟨column, true⟩
  else
    word " ASC"
    return ⟨column, false⟩

def query : Reader Query := do
  word "SELECT "
  let distinct ← optional "DISTINCT "
  let columns ← list columnKey
  word " FROM "
  let tables ← list fromItem
  word " WHERE "
  let condition ← condition
  if ← optional " ORDER BY " then
    return ⟨distinct, columns, tables, condition, ← list orderTerm⟩
  else return ⟨distinct, columns, tables, condition, []⟩

end PivotedQuery.Sql
