import PivotedQuery.Schema.Affinity
import PivotedQuery.Schema.Identifier
/-!
Tables, their columns, and the keys that name a column of a table.
-/
namespace PivotedQuery

structure Column where
  name : Identifier
  declaredType : String
  nullable : Bool := true
  deriving DecidableEq

namespace Column

def affinity (c : Column) : Affinity := .ofDeclaredType c.declaredType

def sql (c : Column) : String :=
  c.name.quoted ++ " " ++ c.declaredType ++ if c.nullable then "" else " NOT NULL"

end Column

structure ColumnKey where
  table : Identifier
  column : Identifier
  deriving DecidableEq

namespace ColumnKey

instance : BEq ColumnKey := ⟨fun a b => a.table == b.table && a.column == b.column⟩

theorem beq_iff {a b : ColumnKey} :
    (a == b) = true ↔ (a.table == b.table) = true ∧ (a.column == b.column) = true := by
  simp [BEq.beq]

instance : EquivBEq ColumnKey where
  rfl := by simp [beq_iff]
  symm h := by
    simp only [beq_iff] at h ⊢
    exact ⟨BEq.symm h.1, BEq.symm h.2⟩
  trans h k := by
    simp only [beq_iff] at h k ⊢
    exact ⟨BEq.trans h.1 k.1, BEq.trans h.2 k.2⟩

def qualified (k : ColumnKey) : String := k.table.quoted ++ "." ++ k.column.quoted

/-- The unquoted form, for messages. -/
def text (k : ColumnKey) : String := k.table.name ++ "." ++ k.column.name

end ColumnKey

structure Table where
  name : Identifier
  columns : List Column
  indexes : List Identifier := []
  deriving DecidableEq

namespace Table

def column? (t : Table) (name : Identifier) : Option Column := t.columns.find? (·.name == name)

def keys (t : Table) : List ColumnKey := t.columns.map fun c => ⟨t.name, c.name⟩

end Table

/-- Only the first table of the key's name is looked at. -/
def lookupColumn (tables : List Table) (key : ColumnKey) : Option Column := do
  let table ← tables.find? (·.name == key.table)
  table.column? key.column

end PivotedQuery
