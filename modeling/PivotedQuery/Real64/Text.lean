import PivotedQuery.Real64.Decimal
/-!
The text of a double: the fewest digits, positional from `10 ^ -4` up to `10 ^ 16`.
-/
namespace PivotedQuery

def zeros (n : Nat) : List Char := List.replicate n '0'

/-- `digits` with the point after the first `point` of them; at least one digit on either side. -/
def positional (digits : List Char) (point : Int) : List Char :=
  if point ≤ 0 then '0' :: '.' :: (zeros (-point).toNat ++ digits)
  else if point < digits.length then
    digits.take point.toNat ++ '.' :: digits.drop point.toNat
  else digits ++ zeros (point.toNat - digits.length) ++ ['.', '0']

def scientific (digits : List Char) (point : Int) : List Char :=
  (match digits with
    | d :: e :: rest => d :: '.' :: e :: rest
    | ds => ds) ++ 'e' :: (toString (point - 1)).toList

namespace Decimal

def text (d : Decimal) : List Char :=
  let digits := Nat.toDigits 10 d.digits
  let point := digits.length + d.exponent
  if -3 ≤ point ∧ point ≤ 16 then positional digits point else scientific digits point

end Decimal

namespace Real64

def sign (r : Real64) : List Char := if r.isNegative then ['-'] else []

def text (r : Real64) : String :=
  if r.isNaN then "NaN"
  else if r.isInfinite then String.ofList (r.sign ++ ['i', 'n', 'f'])
  else if r.isZero then String.ofList (r.sign ++ ['0', '.', '0'])
  else String.ofList (r.sign ++ (Decimal.ofReal r).text)

end Real64

end PivotedQuery
