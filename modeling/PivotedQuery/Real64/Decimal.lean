import PivotedQuery.Real64.Rounding
/-!
Decimals and doubles: the double nearest to a decimal, and the decimal with the fewest digits
that reads back as a given double.
-/
namespace PivotedQuery

/-- Stands for `digits * 10 ^ exponent`. -/
structure Decimal where
  digits : Nat
  exponent : Int
  deriving DecidableEq, Repr

namespace Decimal

def toReal (negative : Bool) (d : Decimal) : Real64 :=
  match d.exponent with
  | .ofNat e => .ofRatio negative (d.digits * tenTo e) 1
  | .negSucc e => .ofRatio negative d.digits (tenTo (e + 1))

def stripZeros : Nat → Decimal → Decimal
  | 0, d => d
  | fuel + 1, d =>
    if d.digits ≠ 0 ∧ d.digits % 10 = 0 then stripZeros fuel ⟨d.digits / 10, d.exponent + 1⟩ else d

/-- The same decimal without zeros at its end. -/
def strip (d : Decimal) : Decimal := stripZeros (Nat.log2 d.digits + 1) d

def digitCount (n : Nat) : Nat := (Nat.toDigits 10 n).length

/-- The `e` with `10 ^ (e - 1) ≤ num / den < 10 ^ e`. -/
def leadingExponent (num den : Nat) : Int :=
  if den ≤ num then digitCount (num / den)
  else
    let t := digitCount (den / num)
    if den ≤ num * tenTo (t - 1) then 2 - (t : Int) else 1 - (t : Int)

/-- `num / den / 10 ^ e` as a quotient of naturals. -/
def scaleDown (num den : Nat) : Int → Nat × Nat
  | .ofNat e => (num, den * tenTo e)
  | .negSucc e => (num * tenTo (e + 1), den)

/--
The better of the two neighbours of `r` on the grid of `n`-digit decimals, if one of them reads
back as `r`. A tie goes away from zero.
-/
def ofRealAt (r : Real64) (n : Nat) : Option Decimal :=
  let e := leadingExponent r.magnitude (twoTo 1074) - n
  let (num, den) := scaleDown r.magnitude (twoTo 1074) e
  let below : Decimal := ⟨num / den, e⟩
  let above : Decimal := ⟨num / den + 1, e⟩
  let reads (d : Decimal) : Bool := d.toReal r.isNegative == r
  if reads below && (!reads above || 2 * num < (2 * (num / den) + 1) * den) then some below
  else if reads above then some above
  else none

def exact (r : Real64) : Decimal := ⟨r.magnitude * Nat.pow 5 1074, -1074⟩

/-- The fewest digits that read back as `r`, which is finite and not zero. -/
def ofReal (r : Real64) : Decimal :=
  match (List.range 17).findSome? fun i => ofRealAt r (i + 1) with
  | some d => d.strip
  | none => exact r

end Decimal

end PivotedQuery
