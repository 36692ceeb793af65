/-!
Bytes as pairs of hexadecimal digits.
-/
namespace PivotedQuery.Text

def hexDigit (n : Nat) : Char :=
  if n < 10 then Char.ofNat (48 + n) else Char.ofNat (55 + n)

def hexValue (c : Char) : Option Nat :=
  if '0' ≤ c ∧ c ≤ '9' then some (c.toNat - 48)
  else if 'A' ≤ c ∧ c ≤ 'F' then some (c.toNat - 55)
  else if 'a' ≤ c ∧ c ≤ 'f' then some (c.toNat - 87)
  else none

def hexByte (b : UInt8) : List Char := [hexDigit (b.toNat / 16), hexDigit (b.toNat % 16)]

def hex (bytes : List UInt8) : List Char := bytes.flatMap hexByte

/-- Pairs of digits of either case; an odd digit or another character is refused. -/
def unhex : List Char → Option (List UInt8)
  | [] => some []
  | [_] => none
  | h :: l :: rest => do
    let high ← hexValue h
    let low ← hexValue l
    return UInt8.ofNat (16 * high + low) :: (← unhex rest)

/-- The least digits, lower case. -/
def hexNat (n : Nat) : String := String.ofList (Nat.toDigits 16 n)

theorem unhex_hex (bytes : List UInt8) : unhex (hex bytes) = some bytes := by
  induction bytes with
  | nil => rfl
  | cons b bs ih =>
    have digits : ∀ n < 16, hexValue (hexDigit n) = some n := by decide
    have hb : b.toNat < 256 := b.toNat_lt
    have low := digits (b.toNat % 16) (by omega)
    have high := digits (b.toNat / 16) (by omega)
    have whole : UInt8.ofNat (16 * (b.toNat / 16) + b.toNat % 16) = b := by
      rw [Nat.div_add_mod]; exact UInt8.ofNat_toNat
    simp only [hex] at ih
    simp only [hex, List.flatMap_cons, hexByte, List.cons_append, List.nil_append, unhex, low, high, ih]
    exact congrArg (fun x => some (x :: bs)) whole

end PivotedQuery.Text
