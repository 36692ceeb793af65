import PivotedQuery.Real64.Text
/-!
The brief text of a double: at most fifteen digits, positional from `10 ^ -4` up to `10 ^ 15`.
-/
namespace PivotedQuery

namespace Decimal

/-- `r` to so many digits, halves away from zero. -/
def rounded (r : Real64) (digits : Nat) : Decimal :=
  let e := leadingExponent r.magnitude (twoTo 1074) - digits
  let (num, den) := scaleDown r.magnitude (twoTo 1074) e
  strip ⟨(2 * num + den) / (2 * den), e⟩

/-- A sign and at least two digits. -/
def exponentText (e : Int) : List Char :=
  let digits := (toString e.natAbs).toList
  (if e < 0 then '-' else '+') :: (zeros (2 - digits.length) ++ digits)

def brief (d : Decimal) : List Char :=
  let digits := Nat.toDigits 10 d.digits
  let point := digits.length + d.exponent
  if -3 ≤ point ∧ point ≤ 15 then positional digits point
  else positional digits 1 ++ 'e' :: exponentText (point - 1)

end Decimal

namespace Real64

def brief (r : Real64) : String :=
  if r.isZero then "0.0"
  else if r.isInfinite then String.ofList (r.sign ++ ['I', 'n', 'f'])
  else String.ofList (r.sign ++ (Decimal.rounded r 15).brief)

end Real64

end PivotedQuery
