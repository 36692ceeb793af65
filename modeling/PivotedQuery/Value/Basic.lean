import PivotedQuery.Real64.Text
import PivotedQuery.Text.Hex
/-!
Stored values and the five storage classes.
-/
namespace PivotedQuery

inductive StorageClass
  | null
  | integer
  | real
  | text
  | blob
  deriving DecidableEq, Repr

def StorageClass.name : StorageClass → String
  | null => "NULL"
  | integer => "INTEGER"
  | real => "REAL"
  | text => "TEXT"
  | blob => "BLOB"

inductive Value
  | null
  | integer (i : Int64)
  | real (r : Real64)
  | text (s : String)
  | blob (bytes : List UInt8)
  deriving DecidableEq, Inhabited

namespace Value

def storageClass : Value → StorageClass
  | null => .null
  | integer _ => .integer
  | real _ => .real
  | text _ => .text
  | blob _ => .blob

def isNull : Value → Bool
  | null => true
  | _ => false

/-- The text by which fetched cells are compared; NULL has the empty one. -/
def plain : Value → String
  | null => ""
  | integer i => toString i.toInt
  | real r => r.text
  | text s => s
  | blob bytes => String.ofList (Text.hex bytes)

/-- Equal as stored, where reals compare as numbers. -/
def equals : Value → Value → Bool
  | null, null => true
  | integer a, integer b => a == b
  | real a, real b => a.equals b
  | text a, text b => a == b
  | blob a, blob b => a == b
  | _, _ => false

@[simp] theorem isNull_iff {v : Value} : v.isNull = true ↔ v = .null := by
  cases v <;> simp [isNull]

end Value

end PivotedQuery
