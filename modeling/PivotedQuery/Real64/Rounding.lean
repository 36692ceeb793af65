import PivotedQuery.Real64.Basic
/-!
Rounding a quotient of naturals to the nearest double, ties to the even significand.
-/
namespace PivotedQuery

def roundHalfEven (num den : Nat) : Nat :=
  let q := num / den
  let rest := 2 * (num % den)
  if den < rest ∨ (rest = den ∧ q % 2 = 1) then q + 1 else q

namespace Real64

def infinityBits : Nat := 2047 * twoTo 52

/-- Binary exponent above that of the least positive number. -/
def scale (num den : Nat) : Nat := Nat.log2 (num * twoTo 1074 / den) - 52

/-- A significand that rounds up to `2 ^ 53` carries into the exponent field. -/
def roundedBits (num den : Nat) : Nat :=
  let k := scale num den
  min infinityBits (k * twoTo 52 + roundHalfEven (num * twoTo 1074) (den * twoTo k))

def ofBits (negative : Bool) (magnitudeBits : Nat) : Real64 :=
  ⟨UInt64.ofNat (magnitudeBits + if negative then twoTo 63 else 0)⟩

def ofRatio (negative : Bool) (num den : Nat) : Real64 := ofBits negative (roundedBits num den)

def infinity (negative : Bool) : Real64 := ofBits negative infinityBits

def zero : Real64 := ⟨0⟩

def ofNat (n : Nat) : Real64 := ofRatio false n 1

/-- The product of two finite numbers that are not negative. -/
def times (a b : Real64) : Real64 := ofRatio false (a.magnitude * b.magnitude) (twoTo 2148)

/-- The quotient of two finite numbers that are not negative. -/
def dividedBy (a b : Real64) : Real64 := ofRatio false a.magnitude b.magnitude

def negate (negative : Bool) (r : Real64) : Real64 := ofBits negative r.bits.toNat

def one : Real64 := ofRatio false 1 1

end Real64

end PivotedQuery
