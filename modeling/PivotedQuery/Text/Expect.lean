/-!
Steps of a reader over characters: a fixed word, and a run of decimal digits.
-/
namespace PivotedQuery.Text

/-- What follows `word`, if the text starts with it. -/
def expectChars : List Char → List Char → Option (List Char)
  | [], cs => some cs
  | _ :: _, [] => none
  | w :: ws, c :: cs => if w = c then expectChars ws cs else none

def expect (word : String) (cs : List Char) : Option (List Char) := expectChars word.toList cs

theorem expectChars_append (word rest : List Char) : expectChars word (word ++ rest) = some rest := by
  induction word with
  | nil => rfl
  | cons w ws ih => simp [expectChars, ih]

def isDigit (c : Char) : Bool := '0' ≤ c && c ≤ '9'

def digitsValue (cs : List Char) : Nat := cs.foldl (fun n c => 10 * n + (c.toNat - 48)) 0

def splitDigits (cs : List Char) : List Char × List Char := (cs.takeWhile isDigit, cs.dropWhile isDigit)

end PivotedQuery.Text
