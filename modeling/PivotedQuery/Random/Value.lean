import PivotedQuery.Random.Source
import PivotedQuery.Schema.Affinity
import PivotedQuery.Value.Basic
/-!
Random values. Each has the storage class natural to the affinity that it is drawn for, so that
neither storing it nor comparing it with such a column converts it; the ranges are narrow so that
values meet.
-/
namespace PivotedQuery

/-- `n / 4`, which a double holds exactly. -/
def Real64.quarters (n : Int) : Real64 := .ofRatio (n < 0) n.natAbs 4

namespace Draw

def smallInteger : Draw Value := do
  let n ← below .wide 201
  return .integer (Int64.ofInt (n - 100))

def quarter : Draw Value := do
  let n ← below .narrow 801
  return .real (.quarters (n - 400))

def letter : Draw Char := return Char.ofNat (97 + (← below .narrow 26))

def repeated {α : Type} (draw : Draw α) : Nat → Draw (List α)
  | 0 => return []
  | n + 1 => do
    let a ← draw
    let rest ← repeated draw n
    return a :: rest

/-- Empty one time in twenty, else up to six lower-case letters. -/
def shortText : Draw Value := do
  if ← ratio 1 20 then return .text ""
  else
    let n ← below .narrow 6
    return .text (String.ofList (← repeated letter (n + 1)))

def shortBlob : Draw Value := do
  let n ← below .narrow 5
  return .blob (← repeated byte n)

/--
Columns without a type of their own get no reals: `2` and `2.0` are equal there but print
differently.
-/
def value : Affinity → Draw Value
  | .integer => smallInteger
  | .numeric => smallInteger
  | .real => quarter
  | .text => shortText
  | .blob => do
    match ← below .narrow 3 with
    | 0 => smallInteger
    | 1 => shortText
    | _ => shortBlob

end Draw

end PivotedQuery
