import PivotedQuery.Real64.Rounding
/-!
Integers of 64 bits beside doubles: the conversions both ways, and the comparison of one with the
other. Not every such integer is a double, so the whole parts are compared first and the conversion
of the integer decides only where they are equal.
-/
namespace PivotedQuery.Real64

/-- The nearest double, ties to the even significand. -/
def ofInt64 (i : Int64) : Real64 := ofRatio (i.toInt < 0) i.toInt.natAbs 1

/-- The number one in units of the least positive number. -/
def unitsOfOne : Int := twoTo 1074

/-- The whole part, toward zero; beyond the integers it is the last of them. -/
def toInt64 (r : Real64) : Int64 :=
  if r.isNaN then 0 else .ofIntClamp (r.units.tdiv unitsOfOne)

/-- The least integer, and the number just above the greatest one. -/
def integerBound (negative : Bool) : Real64 := ofRatio negative (twoTo 63) 1

/-- An integer against a number; above what cannot be ordered. -/
def orderInt (i : Int64) (r : Real64) : Ordering :=
  if r.isNaN then .gt
  else if r.order (integerBound true) = .lt then .gt
  else if r.order (integerBound false) ≠ .lt then .lt
  else match compare i.toInt r.toInt64.toInt with
    | .eq => (ofInt64 i).order r
    | unequal => unequal

end PivotedQuery.Real64
