import PivotedQuery.Real64.Whole
import PivotedQuery.Value.Basic
/-!
The order of SQL values that need no conversion: numbers before texts before blobs, numbers by
exact value, texts and blobs by their bytes. NULL compares with nothing.
-/
namespace PivotedQuery

def utf8 (s : String) : List UInt8 := s.toUTF8.data.toList

namespace StorageClass

def rank : StorageClass → Nat
  | null => 0
  | integer => 1
  | real => 1
  | text => 2
  | blob => 3

end StorageClass

namespace Value

def order : Value → Value → Option Ordering
  | null, _ => none
  | _, null => none
  | integer a, integer b => some (compare a.toInt b.toInt)
  | real a, real b => some (a.order b)
  | integer a, real b => some (Real64.orderInt a b)
  | real a, integer b => some (Real64.orderInt b a).swap
  | text a, text b => some (compare (utf8 a) (utf8 b))
  | blob a, blob b => some (compare a b)
  | a, b => some (compare a.storageClass.rank b.storageClass.rank)

theorem order_eq_none_iff {a b : Value} : a.order b = none ↔ a = .null ∨ b = .null := by
  cases a <;> cases b <;> simp [order]

end Value

end PivotedQuery
