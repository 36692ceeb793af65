import PivotedQuery.Random.Source
/-!
Random members, orders and samples of a list. A shuffle draws for several exchanges at once: one
number below the product of their ranges is taken apart digit by digit.
-/
namespace PivotedQuery.Draw

def pick {α : Type} (choices : List α) : Draw α := do
  let i ← below (widthFor choices.length) choices.length
  match choices[i]? with
  | some a => return a
  | none => throw .emptyRange

/-- State of the digit supply: the number left to take apart and how many digits it still holds. -/
structure Digits where
  rest : Nat := 0
  count : Nat := 1

/-- Multiplies by the next factors after `first` while the product stays below `2 ^ 32`. -/
def extend (first : Nat) : (fuel product count : Nat) → Nat × Nat
  | 0, p, n => (p, n)
  | fuel + 1, p, n =>
    if p * (first + n) < twoTo 32 then extend first fuel (p * (first + n)) (n + 1) else (p, n)

/-- The product of as many factors from `first` on as fit 32 bits, and their number. -/
def product (first : Nat) : Nat × Nat := extend first 12 first 1

/-- A digit below `i + 1`, and the supply without it. -/
def digit (d : Digits) (i : Nat) : Draw (Nat × Digits) := do
  let d ← if d.count = 0 then
      let (p, n) := product (i + 1)
      pure { rest := ← below .narrow p, count := n - 1 }
    else pure { d with count := d.count - 1 }
  if d.count = 0 then return (d.rest, d)
  else return (d.rest % (i + 1), { d with rest := d.rest / (i + 1) })

/-- Exchanges position `i` with a position up to it, for the next `n` positions. -/
def exchanges {α : Type} : (n i : Nat) → Digits → Array α → Draw (Array α)
  | 0, _, _, xs => return xs
  | n + 1, i, d, xs => do
    let (j, d) ← digit d i
    exchanges n (i + 1) d (xs.swapIfInBounds i j)

def shuffle {α : Type} (xs : List α) : Draw (List α) :=
  if xs.length ≤ 1 then return xs
  else return (← exchanges xs.length 0 {} xs.toArray).toList

/-- A position that comes up again gives way to the greatest one of its draw. -/
def addPosition (chosen : List Nat) (t greatest : Nat) : List Nat :=
  (if t ∈ chosen then chosen.map fun x => if x = t then greatest else x else chosen) ++ [t]

/-- Distinct positions, one for each of the greatest positions listed. -/
def positions : List Nat → List Nat → Draw (List Nat)
  | [], chosen => return chosen
  | g :: gs, chosen => do
    let t ← below .narrow (g + 1)
    positions gs (addPosition chosen t g)

def choose {α : Type} (k : Nat) (xs : List α) : Draw (List α) := do
  let chosen ← positions (List.range' (xs.length - k) k) []
  return chosen.filterMap (xs[·]?)

end PivotedQuery.Draw
