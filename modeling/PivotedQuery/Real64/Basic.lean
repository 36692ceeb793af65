import PivotedQuery.Power
/-!
Double-precision numbers by their 64 bits, compared exactly: every finite number is a whole
multiple of the least positive one, so no comparison rounds.
-/
namespace PivotedQuery

structure Real64 where
  bits : UInt64
  deriving DecidableEq, Repr, Inhabited

namespace Real64

def isNegative (r : Real64) : Bool := twoTo 63 ≤ r.bits.toNat

def biased (r : Real64) : Nat := r.bits.toNat / twoTo 52 % twoTo 11

def fraction (r : Real64) : Nat := r.bits.toNat % twoTo 52

def isNaN (r : Real64) : Bool := r.biased == 2047 && r.fraction != 0

def isInfinite (r : Real64) : Bool := r.biased == 2047 && r.fraction == 0

def significand (r : Real64) : Nat :=
  if r.biased = 0 then r.fraction else twoTo 52 + r.fraction

/-- Absolute value in units of `2 ^ -1074`. An infinity comes out above every finite number. -/
def magnitude (r : Real64) : Nat := r.significand * twoTo (r.biased - 1)

def units (r : Real64) : Int := if r.isNegative then -r.magnitude else r.magnitude

def isZero (r : Real64) : Bool := r.magnitude == 0

/-- Both zeros are equal and a number that is none differs from itself. -/
def equals (a b : Real64) : Bool := !a.isNaN && !b.isNaN && a.units == b.units

/-- What cannot be ordered counts as equal. -/
def order (a b : Real64) : Ordering :=
  if a.isNaN || b.isNaN then .eq else compare a.units b.units

end Real64

end PivotedQuery
