import PivotedQuery.Value.Order
/-!
Comparison operators and the connectives of three-valued logic; `none` is the unknown truth value.
-/
namespace PivotedQuery

abbrev Truth := Option Bool

namespace Truth

def not (a : Truth) : Truth := a.map Bool.not

def and : Truth → Truth → Truth
  | some false, _ => some false
  | _, some false => some false
  | some true, some true => some true
  | _, _ => none

def or : Truth → Truth → Truth
  | some true, _ => some true
  | _, some true => some true
  | some false, some false => some false
  | _, _ => none

def isUnknown (a : Truth) : Truth := some a.isNone

end Truth

inductive Comparison
  | eq
  | ne
  | lt
  | le
  | gt
  | ge
  | is
  | isNot
  deriving DecidableEq, Repr

namespace Comparison

def all : List Comparison := [eq, ne, lt, le, gt, ge, is, isNot]

def sql : Comparison → String
  | eq => "="
  | ne => "<>"
  | lt => "<"
  | le => "<="
  | gt => ">"
  | ge => ">="
  | is => "IS"
  | isNot => "IS NOT"

/-- Two NULLs are the same, and so are values that compare equal. -/
def same (a b : Value) : Bool :=
  match a.isNull, b.isNull with
  | true, true => true
  | false, false => a.order b == some .eq
  | _, _ => false

def apply (op : Comparison) (a b : Value) : Truth :=
  match op with
  | eq => (a.order b).map (· == .eq)
  | ne => (a.order b).map (· != .eq)
  | lt => (a.order b).map (· == .lt)
  | le => (a.order b).map (· != .gt)
  | gt => (a.order b).map (· == .gt)
  | ge => (a.order b).map (· != .lt)
  | is => some (same a b)
  | isNot => some (!same a b)

end Comparison

end PivotedQuery
