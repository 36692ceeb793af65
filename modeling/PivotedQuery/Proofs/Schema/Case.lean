import Mathlib
import PivotedQuery.Proofs.Schema.Keys
/-!
Names without their case. Two schemas differ only in the case of their names if they become the same
once every name is folded to lower case. Main statements: names are equal just if they fold to the
same, and a folded key finds the folded column.
-/
namespace PivotedQuery

namespace Identifier

/-- The name in lower case. -/
def caseFold (a : Identifier) : Identifier := ⟨a.folded⟩

theorem folded_caseFold (a : Identifier) : a.caseFold.folded = a.folded := by
  rw [← String.toList_inj]
  simp [caseFold, folded, Char.toLower_toLower_eq_toLower]

theorem caseFold_beq (a b : Identifier) : (a.caseFold == b.caseFold) = (a == b) := by
  rw [Bool.eq_iff_iff, beq_iff, beq_iff, folded_caseFold, folded_caseFold]

theorem caseFold_eq_iff {a b : Identifier} : a.caseFold = b.caseFold ↔ (a == b) = true := by
  rw [beq_iff, caseFold, caseFold, Identifier.mk.injEq]

end Identifier

namespace ColumnKey

def caseFold (k : ColumnKey) : ColumnKey := ⟨k.table.caseFold, k.column.caseFold⟩

theorem caseFold_beq (a b : ColumnKey) : (a.caseFold == b.caseFold) = (a == b) := by
  simp only [beq_eq, caseFold, Identifier.caseFold_beq]

theorem caseFold_eq_iff {a b : ColumnKey} : a.caseFold = b.caseFold ↔ (a == b) = true := by
  rw [beq_iff, ← Identifier.caseFold_eq_iff, ← Identifier.caseFold_eq_iff, caseFold, caseFold,
    ColumnKey.mk.injEq]

end ColumnKey

/-- The declared type is no name. -/
def Column.caseFold (c : Column) : Column := { c with name := c.name.caseFold }

namespace Table

def caseFold (t : Table) : Table where
  name := t.name.caseFold
  columns := t.columns.map Column.caseFold
  indexes := t.indexes.map Identifier.caseFold

theorem keys_caseFold (t : Table) : t.caseFold.keys = t.keys.map ColumnKey.caseFold := by
  simp [keys, caseFold, Column.caseFold, ColumnKey.caseFold]

theorem column?_caseFold (t : Table) (name : Identifier) :
    t.caseFold.column? name.caseFold = (t.column? name).map Column.caseFold := by
  have hname (c : Column) : (c.caseFold.name == name.caseFold) = (c.name == name) :=
    Identifier.caseFold_beq _ _
  simp only [column?, caseFold, List.find?_map, Function.comp_def, hname]

end Table

theorem lookupColumn_caseFold (tables : List Table) (key : ColumnKey) :
    lookupColumn (tables.map Table.caseFold) key.caseFold =
      (lookupColumn tables key).map Column.caseFold := by
  have hname (t : Table) : (t.caseFold.name == key.table.caseFold) = (t.name == key.table) :=
    Identifier.caseFold_beq _ _
  unfold lookupColumn ColumnKey.caseFold
  simp only [List.find?_map, Function.comp_def, hname]
  cases tables.find? (·.name == key.table) with
  | none => rfl
  | some t => exact t.column?_caseFold key.column

end PivotedQuery
