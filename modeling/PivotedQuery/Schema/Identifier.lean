import PivotedQuery.Text.Doubled
/-!
SQL identifiers: compared without regard to ASCII case, shown as they were spelled.
-/
namespace PivotedQuery

structure Identifier where
  name : String
  deriving DecidableEq, Inhabited

namespace Identifier

def folded (a : Identifier) : String := a.name.map Char.toLower

instance : BEq Identifier := ⟨fun a b => a.folded == b.folded⟩

instance : Ord Identifier := ⟨fun a b => compare a.folded b.folded⟩

/-- Between double quotes, safe inside a statement. -/
def quoted (a : Identifier) : String := Text.enclose '\x22' a.name

theorem beq_iff {a b : Identifier} : (a == b) = true ↔ a.folded = b.folded := by
  simp [BEq.beq]

instance : EquivBEq Identifier where
  rfl := by simp [beq_iff]
  symm h := by simp_all [beq_iff]
  trans h k := by simp_all [beq_iff]

end Identifier

end PivotedQuery
