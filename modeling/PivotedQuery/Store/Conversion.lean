import PivotedQuery.Real64.Brief
import PivotedQuery.Real64.Extended
import PivotedQuery.Schema.Affinity
import PivotedQuery.Value.Literal
import PivotedQuery.Value.Order
/-!
Values as a column keeps them: brought to its affinity if nothing of them is lost.
-/
namespace PivotedQuery.Value

/-- A real that is an integer, strictly between the extremes of 64 bits. -/
def wholeNumber? (r : Real64) : Option Int64 :=
  if r.isNaN || r.isInfinite || r.units % Real64.one.units ≠ 0 then none
  else
    let i := r.units / Real64.one.units
    if Int64.minValue.toInt < i ∧ i < Int64.maxValue.toInt then some (Int64.ofInt i) else none

def ofInteger (i : Int64) : Real64 := .ofRatio (i.toInt < 0) i.toInt.natAbs 1

/-! Numbers in texts. -/

def isSpace (c : Char) : Bool := c = ' ' || ('\t' ≤ c && c ≤ '\r')

/-- A minus or a plus may stand first. -/
def splitSign : List Char → Bool × List Char
  | '-' :: cs => (true, cs)
  | '+' :: cs => (false, cs)
  | cs => (false, cs)

/-- Greater exponents change nothing. -/
def maxExponent : Nat := 10000

/-- An exponent up to the end; zero if nothing is left. -/
def exponentOf? : List Char → Option Int
  | [] => some 0
  | e :: cs =>
    let (negative, digits) := splitSign cs
    if e.toUpper ≠ 'E' || digits.isEmpty || !digits.all Text.isDigit then none
    else
      let n : Int := min maxExponent (Text.digitsValue digits)
      some (if negative then -n else n)

def unsigned? (negative : Bool) (cs : List Char) : Option Value := do
  let (whole, rest) := Text.splitDigits cs
  let (places, after) := match rest with
    | '.' :: rest => Text.splitDigits rest
    | rest => ([], rest)
  if whole.isEmpty && places.isEmpty then none
  let digits := Text.digitsValue (whole ++ places)
  if rest.isEmpty then return ofDigits Decimal.toRealStepwise negative digits
  return real (Decimal.toRealStepwise negative ⟨digits, (← exponentOf? after) - places.length⟩)

/-- The number that a text spells, with space around it. -/
def numberOf? (s : String) : Option Value :=
  let cs := ((s.toList.dropWhile isSpace).reverse.dropWhile isSpace).reverse
  let (negative, cs) := splitSign cs
  unsigned? negative cs

/-- A number with as little of it after the point as its column needs. -/
def integral (v : Value) : Value :=
  match v with
  | real r => ((wholeNumber? r).map integer).getD v
  | _ => v

def inexact (v : Value) : Value :=
  match v with
  | integer i => real (ofInteger i)
  | real r => if r.equals .zero then real .zero else v
  | _ => v

def textual (v : Value) : Value :=
  match v with
  | integer i => text (toString i.toInt)
  | real r => text r.brief
  | _ => v

def numeric (v : Value) : Value :=
  match v with
  | text s => (numberOf? s).getD v
  | _ => v

/-- The value as a column of the given affinity keeps it. -/
def stored (v : Value) : Affinity → Value
  | .integer | .numeric => v.numeric.integral
  | .real => v.numeric.inexact
  | .text => v.textual
  | .blob => v

end PivotedQuery.Value
