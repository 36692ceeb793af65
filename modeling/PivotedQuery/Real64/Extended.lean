import PivotedQuery.Real64.Decimal
/-!
Numbers with significands of 64 bits, and decimals computed in them one power of ten after another.
Such a number is nearly always rounded to the double that is nearest to the decimal.
-/
namespace PivotedQuery

/-- Stands for `significand * 2 ^ exponent`. -/
structure Extended where
  significand : Nat
  exponent : Int
  deriving DecidableEq, Repr

namespace Extended

/-- `num / den / 2 ^ e` as a quotient of naturals. -/
def scaleDown (num den : Nat) : Int → Nat × Nat
  | .ofNat e => (num, den * twoTo e)
  | .negSucc e => (num * twoTo (e + 1), den)

/-- A quotient of positive numbers to 64 bits, ties to the even significand. -/
def ofRatio (num den : Nat) : Extended :=
  let least : Int := Nat.log2 num - Nat.log2 den - 64
  let (n, d) := scaleDown num den least
  let e := if n / d < twoTo 64 then least else least + 1
  let (n, d) := scaleDown num den e
  ⟨roundHalfEven n d, e⟩

def ratio (x : Extended) : Nat × Nat := scaleDown x.significand 1 (-x.exponent)

def times (x y : Extended) : Extended :=
  let (n, d) := x.ratio
  let (m, e) := y.ratio
  ofRatio (n * m) (d * e)

def toReal (negative : Bool) (x : Extended) : Real64 := .ofRatio negative x.ratio.1 x.ratio.2

/-- `10 ^ n`, or its inverse. -/
def powerOfTen (inverse : Bool) (n : Nat) : Extended :=
  if inverse then ofRatio 1 (tenTo n) else ofRatio (tenTo n) 1

/-- `x * 10 ^ n` or `x / 10 ^ n` by hundreds, then by tens, then by ones of the exponent. -/
def scaledBy (inverse : Bool) (n : Nat) (x : Extended) : Extended :=
  let steps : List (Nat × Nat) := [(100, n / 100), (10, n % 100 / 10), (1, n % 10)]
  steps.foldl (fun x (power, count) => count.repeat (times (powerOfTen inverse power)) x) x

end Extended

namespace Decimal

/-- The digits that fit into 64 bits together with one more. -/
def leading : (fuel : Nat) → Decimal → Decimal
  | 0, d => d
  | fuel + 1, d =>
    if (twoTo 64 - 10) / 10 ≤ d.digits / 10 then leading fuel ⟨d.digits / 10, d.exponent + 1⟩ else d

/-- The same number with an exponent as near to zero as the digits allow within 64 bits. -/
def balanced : (fuel : Nat) → Decimal → Decimal
  | 0, d => d
  | fuel + 1, d =>
    if 0 < d.exponent ∧ d.digits < (twoTo 64 - twoTo 11) / 10 then
      balanced fuel ⟨10 * d.digits, d.exponent - 1⟩
    else if d.exponent < 0 ∧ d.digits % 10 = 0 then balanced fuel ⟨d.digits / 10, d.exponent + 1⟩
    else d

/-- The decimal by steps of 64 bits each. -/
def toRealStepwise (negative : Bool) (d : Decimal) : Real64 :=
  let d := leading (digitCount d.digits) d
  if d.digits = 0 then .ofRatio negative 0 1
  else
    let d := balanced 20 d
    if d.exponent = 0 then .ofRatio negative d.digits 1
    else
      let x := Extended.ofRatio d.digits 1
      (x.scaledBy (d.exponent < 0) d.exponent.natAbs).toReal negative

end Decimal

end PivotedQuery
