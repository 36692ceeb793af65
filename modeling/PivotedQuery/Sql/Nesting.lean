import PivotedQuery.Query.Basic
/-!
How deep a condition is nested, counted in what a reader that goes from left to right holds open at
once: parentheses, words before an operand, and the operands of connectives that wait for another.
-/
namespace PivotedQuery

/-- What is held open while an operand is read, beyond the place that it takes in the end. -/
def Operand.nesting : Operand → Nat
  | .column _ | .pivot _ => 2
  | .literal v =>
    match v.literal.toList.head? with
    | some '-' => 1
    | some '(' => 3
    | _ => 0

/-- What is held open at most after the place where the condition starts. -/
def Predicate.nesting : Predicate → Nat
  | .compare a op b => max (1 + a.nesting) ((if op = .isNot then 4 else 3) + b.nesting)
  | .isNull a => max (1 + a.nesting) 3
  | .notNull a => max (1 + a.nesting) 4
  | .not p => 2 + p.nesting
  | .and p q => max (1 + p.nesting) (3 + q.nesting)
  | .or p q => max (1 + p.nesting) (3 + q.nesting)
  | .isUnknown p => max (1 + p.nesting) 3

namespace Query

/-- What a reader holds open at most. -/
def readerSpace : Nat := 100

/-- What is held open of a query where its condition starts. -/
def clausesBefore : Nat := 6

def isReadable (q : Query) : Bool := clausesBefore + q.condition.nesting < readerSpace

end Query

end PivotedQuery
