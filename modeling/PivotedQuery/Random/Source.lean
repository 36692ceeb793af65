import PivotedQuery.Real64.Rounding
/-!
Sources of random words, and draws from them. A draw that fails keeps what it has consumed. What is
drawn in great numbers has memory set aside for it first.
-/
namespace PivotedQuery

/-- An endless stream of 32-bit words and how many of them have been handed out. -/
structure Source where
  word : Nat → UInt32
  used : Nat := 0

/-- The words in turn, starting over at the end. -/
def Source.cycle (words : Array UInt32) : Source := ⟨fun i => words.getD (i % words.size) 0, 0⟩

inductive DrawError
  | emptyRange
  | badProbability
  | capacityOverflow
  deriving DecidableEq, Repr

abbrev Draw := ExceptT DrawError (StateM Source)

namespace Draw

def next (s : Source) : UInt32 × Source := (s.word s.used, { s with used := s.used + 1 })

def word : Draw UInt32 := fun s => let (w, s) := next s; (.ok w, s)

/-- The first of the two words is the low half. -/
def wide : Draw Nat := do
  let low ← word
  let high ← word
  return low.toNat + twoTo 32 * high.toNat

def byte : Draw UInt8 := return (← word).toUInt8

/-- As many bits as a range of the given kind consumes for one draw. -/
inductive Width
  | narrow
  | wide
  deriving DecidableEq

def Width.modulus : Width → Nat
  | narrow => twoTo 32
  | wide => twoTo 64

def bits : Width → Draw Nat
  | .narrow => return (← word).toNat
  | .wide => wide

/--
A number below `n`: the high half of the product of a draw and `n`. Where the low half leaves a
doubt, a second draw decides on a carry.
-/
def below (width : Width) (n : Nat) : Draw Nat := do
  if n = 0 then throw .emptyRange
  let modulus := width.modulus
  let product := (← bits width) * n
  let high := product / modulus
  let low := product % modulus
  if modulus - n < low then
    let carry := (← bits width) * n / modulus
    return if modulus ≤ low + carry then high + 1 else high
  else return high

/-- The width that a range of sizes up to `limit` consumes. -/
def widthFor (limit : Nat) : Width := if limit < twoTo 32 then .narrow else .wide

/-- A size from `first` to `last`. -/
def size (first last : Nat) : Draw Nat :=
  return first + (← below (widthFor last) (last + 1 - first))

/-- `p * 2 ^ 64` without its fraction. -/
def threshold (p : Real64) : Nat := p.magnitude * twoTo 64 / twoTo 1074

def isProbability (p : Real64) : Bool := !p.isNaN && 0 ≤ p.units && p.units ≤ Real64.one.units

/-- Certainty is not drawn for. -/
def chance (p : Real64) : Draw Bool := do
  if p = Real64.one then return true
  else if isProbability p then return (← wide) < threshold p
  else throw .badProbability

def ratio (num den : Nat) : Draw Bool := chance (.ofRatio false num den)

/-- The most bytes that one buffer can have. -/
def maxCapacity : Nat := twoTo 63 - 1

/-- Sets so many bytes aside in one buffer. Whether the machine has them to give is not asked. -/
def reserve (bytes : Nat) : Draw Unit :=
  if maxCapacity < bytes then throw .capacityOverflow else return ()

end Draw

end PivotedQuery
