import PivotedQuery.Value.Basic
import PivotedQuery.Text.Upper
import PivotedQuery.Text.Blank
/-!
Fetched cells: a value with the name of its type. Cells are equal if their types have one name and
both are NULL or both print alike.
-/
namespace PivotedQuery

structure ValueType where
  name : String
  deriving DecidableEq

namespace ValueType

def named (s : String) : ValueType := ⟨Text.upper s⟩

/-- The declared type of the column where there is one, else the storage class of the value. -/
def resolve (declared : Option String) (value : Value) : ValueType :=
  match declared.map Text.trim with
  | some d => if d.isEmpty then ⟨value.storageClass.name⟩ else named d
  | none => ⟨value.storageClass.name⟩

end ValueType

structure Cell where
  value : Value
  type : ValueType
  deriving DecidableEq

namespace Cell

def null (type : ValueType) : Cell := ⟨.null, type⟩

def isNull (c : Cell) : Bool := c.value.isNull

def plain (c : Cell) : String := c.value.plain

instance : BEq Cell where
  beq a b := a.type == b.type && a.isNull == b.isNull && (a.isNull || a.plain == b.plain)

theorem beq_iff {a b : Cell} :
    (a == b) = true ↔ a.type = b.type ∧ a.isNull = b.isNull ∧ (a.isNull ∨ a.plain = b.plain) := by
  simp [BEq.beq, and_assoc]

def yesNo (b : Bool) : String := if b then "true" else "false"

def text (c : Cell) : String :=
  "[null: " ++ yesNo c.isNull ++ ", type: " ++ c.type.name ++ ", value: " ++ c.plain ++ "]"

end Cell

abbrev Rows := List (List Cell)

end PivotedQuery
