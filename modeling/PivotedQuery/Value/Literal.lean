import PivotedQuery.Value.Basic
import PivotedQuery.Text.Doubled
import PivotedQuery.Text.Expect
/-!
Literals of SQL: how a value is written into a statement and read from one.
-/
namespace PivotedQuery.Value

/-- The least integer has no literal of its own. -/
def leastInteger : String := "(-9223372036854775807 - 1)"

def infinityLiteral (negative : Bool) : String := if negative then "-9e999" else "9e999"

def literal : Value → String
  | null => "NULL"
  | integer i => if i = Int64.minValue then leastInteger else toString i.toInt
  | real r => if r.isInfinite then infinityLiteral r.isNegative else r.text
  | text s => Text.enclose '\x27' s
  | blob bytes => "X\x27" ++ String.ofList (Text.hex bytes) ++ "\x27"

/-- A decimal exponent, and whether one is written. -/
def readExponent : List Char → Option (Option Int × List Char)
  | 'e' :: '-' :: cs =>
    let (ds, rest) := Text.splitDigits cs
    if ds.isEmpty then none else some (some (-Text.digitsValue ds), rest)
  | 'e' :: cs =>
    let (ds, rest) := Text.splitDigits cs
    if ds.isEmpty then none else some (some (Text.digitsValue ds), rest)
  | cs => some (none, cs)

/-- How the double for a decimal is found. -/
abbrev DecimalReading := (negative : Bool) → Decimal → Real64

def ofDigits (toReal : DecimalReading) (negative : Bool) (n : Nat) : Value :=
  let i : Int := if negative then -n else n
  if Int64.minValue.toInt ≤ i ∧ i ≤ Int64.maxValue.toInt then integer (Int64.ofInt i)
  else real (toReal negative ⟨n, 0⟩)

/-- Digits are an integer; with a point or an exponent they are a real. -/
def readNumber (toReal : DecimalReading) (negative : Bool) (cs : List Char) :
    Option (Value × List Char) :=
  match Text.splitDigits cs with
  | ([], _) => none
  | (whole, '.' :: rest) => do
    let (places, rest) := Text.splitDigits rest
    let (exponent, rest) ← readExponent rest
    let digits := Text.digitsValue (whole ++ places)
    return (real (toReal negative ⟨digits, exponent.getD 0 - places.length⟩), rest)
  | (whole, rest) => do
    let digits := Text.digitsValue whole
    match ← readExponent rest with
    | (none, rest) => return (ofDigits toReal negative digits, rest)
    | (some e, rest) => return (real (toReal negative ⟨digits, e⟩), rest)

def readText (cs : List Char) : Option (Value × List Char) :=
  (Text.readDoubled '\x27' cs).map fun (s, rest) => (text (String.ofList s), rest)

def readBlob (cs : List Char) : Option (Value × List Char) := do
  let digits := cs.takeWhile (· ≠ '\x27')
  let rest ← Text.expect "\x27" (cs.dropWhile (· ≠ '\x27'))
  return (blob (← Text.unhex digits), rest)

def readLiteral (toReal : DecimalReading) (cs : List Char) : Option (Value × List Char) :=
  match cs with
  | 'N' :: 'U' :: 'L' :: 'L' :: rest => some (null, rest)
  | 'X' :: '\x27' :: rest => readBlob rest
  | '\x27' :: rest => readText rest
  | '-' :: rest => readNumber toReal true rest
  | '(' :: _ => (Text.expect leastInteger cs).map fun rest => (integer Int64.minValue, rest)
  | cs => readNumber toReal false cs

end PivotedQuery.Value
