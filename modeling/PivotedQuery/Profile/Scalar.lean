import PivotedQuery.Fault
import PivotedQuery.Real64.Rounding
import PivotedQuery.Text.Expect
import PivotedQuery.Text.Hex
/-!
Scalars of a profile text: white space, words, numbers and strings. Every reader goes from left to
right and reports the first flaw.
-/
namespace PivotedQuery.Profile

/-- A reader takes characters from the front of what is left. -/
abbrev Reader := StateT (List Char) (Except Flaw)

namespace Reader

def isSpace (c : Char) : Bool := c == ' ' || c == '\n' || c == '\t' || c == '\r'

def rest : Reader (List Char) := get

/-- The next character, which stays. -/
def peek : Reader (Option Char) := return (← rest).head?

def drop : Reader Unit := modify List.tail

/-- The next character after white space, which is dropped. -/
def skip : Reader (Option Char) := do
  modify (List.dropWhile isSpace)
  peek

def fail {α : Type} (flaw : Flaw) : Reader α := throw flaw

/-- Flaw of a text that goes wrong at this place: it ends here, or something else stands here. -/
def here : Reader Flaw := return if (← peek).isNone then .eof else .syntactic

def word : List Char → Reader Unit
  | [] => return ()
  | w :: ws => do
    if (← peek) = some w then
      drop
      word ws
    else fail (← here)

end Reader

/-- A whole number that is not negative and fits 64 bits, or any other number. -/
inductive Number
  | whole (n : Nat)
  | other (r : Real64)

namespace Number

def toReal : Number → Real64
  | whole n => .ofNat n
  | other r => r

/-- Digits are taken up while the number they form fits 64 bits; the rest is handed back. -/
def absorb (n : Nat) : List Char → Nat × List Char
  | [] => (n, [])
  | d :: ds =>
    let m := 10 * n + (d.toNat - 48)
    if m < twoTo 64 then absorb m ds else (n, d :: ds)

/-- The number divided by a power of ten above the table of powers, in steps of `10 ^ 308`. -/
def shrink : (fuel : Nat) → Real64 → Nat → Real64
  | 0, r, _ => r
  | fuel + 1, r, e =>
    if e ≤ 308 then r.dividedBy (.ofNat (tenTo e))
    else if r.isZero then r
    else shrink fuel (r.dividedBy (.ofNat (tenTo 308))) (e - 308)

/-- `n * 10 ^ e`, rounded after each step; numbers too large are refused. -/
def scale (negative : Bool) (n : Nat) (e : Int) : Except Flaw Real64 :=
  let r := Real64.ofNat n
  match e with
  | .negSucc k => .ok ((shrink 4 r (k + 1)).negate negative)
  | .ofNat k =>
    if 308 < k then if n = 0 then .ok (r.negate negative) else .error .syntactic
    else
      let s := r.times (.ofNat (tenTo k))
      if s.isInfinite then .error .syntactic else .ok (s.negate negative)

open Reader

def digits : Reader (List Char) := do
  let (ds, rest) := Text.splitDigits (← rest)
  set rest
  return ds

/-- An exponent this large is no number unless the digits before it are all zero. -/
def exponentLimit : Nat := twoTo 31

def exponent (negative : Bool) (n : Nat) (before : Int) : Reader Real64 := do
  drop
  let sign ← peek
  if sign = some '+' ∨ sign = some '-' then drop
  let ds ← digits
  if ds.isEmpty then fail (← here)
  let e := Text.digitsValue ds
  if exponentLimit ≤ e then
    if n ≠ 0 ∧ sign ≠ some '-' then fail .syntactic
    else return Real64.zero.negate negative
  else if sign = some '-' then scale negative n (before - e)
  else scale negative n (before + e)

def fractional (negative : Bool) (n : Nat) (before : Int) : Reader Real64 := do
  drop
  let ds ← digits
  if ds.isEmpty then fail (← here)
  let (m, ignored) := absorb n ds
  let e := before - (ds.length - ignored.length : Nat)
  let next ← peek
  if next = some 'e' ∨ next = some 'E' then exponent negative m e
  else scale negative m e

def integral (negative : Bool) (n : Nat) : Number :=
  if negative then .other ((Real64.ofNat n).negate true) else .whole n

/-- The digits and what follows them; a minus sign has been read. -/
def read (negative : Bool) : Reader Number := do
  let ds ← digits
  if ds.isEmpty then fail (← here)
  if ds.head? = some '0' ∧ ds.length ≠ 1 then fail .syntactic
  let (n, ignored) := absorb 0 ds
  let next ← peek
  if next = some '.' then return .other (← fractional negative n ignored.length)
  else if next = some 'e' ∨ next = some 'E' then
    return .other (← exponent negative n ignored.length)
  else if ignored.isEmpty then return integral negative n
  else return .other (← scale negative n ignored.length)

end Number

namespace Quoted

open Reader

def hexDigits (cs : List Char) : Option Nat :=
  cs.foldlM (fun n c => (Text.hexValue c).map (16 * n + ·)) 0

/-- Four hexadecimal digits. A text with fewer than four bytes left has ended. -/
def codeUnit : Reader Nat := do
  let cs ← rest
  if (String.ofList cs).utf8ByteSize < 4 then fail .eof
  else match hexDigits (cs.take 4) with
    | some n =>
      set (cs.drop 4)
      return n
    | none => fail .syntactic

def isLow (n : Nat) : Bool := 0xDC00 ≤ n && n ≤ 0xDFFF

def isHigh (n : Nat) : Bool := 0xD800 ≤ n && n ≤ 0xDBFF

/-- A high half must be followed by the escape of a low half. -/
def codePoint : Reader Char := do
  let n ← codeUnit
  if isLow n then fail .syntactic
  else if isHigh n then
    word ['\\', 'u']
    let m ← codeUnit
    if isLow m then return Char.ofNat ((n - 0xD800) * 1024 + (m - 0xDC00) + 0x10000)
    else fail .syntactic
  else return Char.ofNat n

def simpleEscape : Char → Option Char
  | '\x22' => some '\x22'
  | '\\' => some '\\'
  | '/' => some '/'
  | 'b' => some '\x08'
  | 'f' => some '\x0c'
  | 'n' => some '\n'
  | 'r' => some '\r'
  | 't' => some '\t'
  | _ => none

def escape : Reader Char := do
  match ← peek with
  | none => fail .eof
  | some 'u' =>
    drop
    codePoint
  | some c =>
    drop
    match simpleEscape c with
    | some d => return d
    | none => fail .syntactic

/-- Characters up to the closing quote, which is dropped. -/
def chars : (fuel : Nat) → Reader (List Char)
  | 0 => fail .eof
  | fuel + 1 => do
    match ← peek with
    | none => fail .eof
    | some '\x22' =>
      drop
      return []
    | some '\\' =>
      drop
      let c ← escape
      return c :: (← chars fuel)
    | some c =>
      if c.toNat < 32 then fail .syntactic
      else
        drop
        return c :: (← chars fuel)

/-- The opening quote has been read. -/
def read : Reader String := do
  let cs ← chars ((← rest).length + 1)
  return String.ofList cs

end Quoted

end PivotedQuery.Profile
