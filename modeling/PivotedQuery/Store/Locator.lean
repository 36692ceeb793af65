import PivotedQuery.Text.Expect
import PivotedQuery.Text.Hex
import PivotedQuery.Value.Order
/-!
The parts of a `file:` URI: a path, and settings by name. A separator that is written as an encoded
byte separates nothing, and an encoded NUL ends the part in which it stands.
-/
namespace PivotedQuery

/-- A path of the file system is made of bytes. -/
abbrev Path := List UInt8

namespace Path

/-- One more name on a way, whose last name comes first. -/
def enter (way : List Path) (name : Path) : List Path :=
  if name.isEmpty || name = utf8 "." then way
  else if name = utf8 ".." then way.drop 1
  else name :: way

/-- The names that lead to a place, the last one first. -/
def names (p : Path) : List Path := (p.splitOn 47).foldl enter []

end Path

structure Locator where
  path : Path
  /-- In the order given; every name is followed by its value. -/
  settings : List (List UInt8 × List UInt8)

namespace Locator

/-- Two hexadecimal digits after a percent sign stand for a byte. -/
def percentDecoded : List Char → List UInt8
  | [] => []
  | '%' :: a :: b :: rest =>
    match Text.hexValue a, Text.hexValue b with
    | some high, some low => UInt8.ofNat (16 * high + low) :: percentDecoded rest
    | _, _ => utf8 "%" ++ percentDecoded (a :: b :: rest)
  | c :: rest => utf8 (String.singleton c) ++ percentDecoded rest
  termination_by cs => cs.length

def decoded (cs : List Char) : List UInt8 := (percentDecoded cs).takeWhile (· ≠ 0)

/-- The parts before and after the first separator. -/
def split (separator : Char) (cs : List Char) : List Char × List Char :=
  (cs.takeWhile (· ≠ separator), (cs.dropWhile (· ≠ separator)).drop 1)

/-- What follows an authority, which may only be empty or this machine. -/
def afterAuthority (cs : List Char) : Option (List Char) :=
  match Text.expect "//" cs with
  | none => some cs
  | some rest =>
    let (authority, rest) := (rest.takeWhile (· ≠ '/'), rest.dropWhile (· ≠ '/'))
    if authority.isEmpty || authority = "localhost".toList then some rest else none

def setting (cs : List Char) : List UInt8 × List UInt8 :=
  let (name, value) := split '=' cs
  (decoded name, decoded value)

/-- The locator after its scheme. A setting without a name is left out. -/
def parse (cs : List Char) : Option Locator := do
  let rest := (split '#' (← afterAuthority cs)).1
  let (path, query) := split '?' rest
  return ⟨decoded path, ((query.splitOn '&').map setting).filter (!·.1.isEmpty)⟩

def setting? (l : Locator) (name : String) : Option (List UInt8) := l.settings.lookup (utf8 name)

end Locator

end PivotedQuery
