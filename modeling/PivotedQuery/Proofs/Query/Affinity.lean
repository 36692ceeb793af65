import PivotedQuery.Proofs.Query.Synthesis
import PivotedQuery.Proofs.Schema.Keys
import PivotedQuery.Store.Conversion
/-!
The conversion of operands before a comparison. Main statement: where every row holds values of the
storage class natural to their column, no comparison of a drawn condition converts an operand.
-/
namespace PivotedQuery

def Affinity.isNumeric : Affinity → Bool
  | .integer => true
  | .real => true
  | .numeric => true
  | .text => false
  | .blob => false

/-- The affinity of the column that an operand names. Literals have none. -/
def Operand.affinity? (columns : List TypedKey) : Operand → Option Affinity
  | .column key => (columns.find? (·.key == key)).map (·.affinity)
  | _ => none

namespace Value

/-- Of the storage class that a column of the affinity holds unchanged. -/
def IsNatural : Affinity → Value → Prop
  | .integer, v => ∃ i, v = integer i
  | .numeric, v => ∃ i, v = integer i
  | .real, v => ∃ r, v = real r
  | .text, v => ∃ s, v = text s
  | .blob, _ => True

/-- An operand's value as it is compared: beside a numeric column a text, or what has no affinity,
becomes a number; beside a text column what has no affinity becomes a text. -/
def compared (own other : Option Affinity) (v : Value) : Value :=
  match other with
  | none => v
  | some .blob => v
  | some .text => if own = none ∨ own = some .blob then v.textual else v
  | some _ => if own.any Affinity.isNumeric then v else v.numeric

theorem compared_none_right (own : Option Affinity) (v : Value) : compared own none v = v := rfl

theorem compared_self (a : Affinity) (v : Value) : compared (some a) (some a) v = v := by
  cases a <;> rfl

/-- Values natural to the other side's column need no conversion. -/
theorem compared_of_isNatural {a : Affinity} {v : Value} (h : v = null ∨ IsNatural a v) :
    compared none (some a) v = v := by
  rcases h with rfl | h
  · cases a <;> rfl
  cases a with
  | integer => obtain ⟨i, rfl⟩ := h; rfl
  | numeric => obtain ⟨i, rfl⟩ := h; rfl
  | real => obtain ⟨r, rfl⟩ := h; rfl
  | text => obtain ⟨s, rfl⟩ := h; rfl
  | blob => rfl

theorem Drawn.isNatural {a : Affinity} {v : Value} (h : Drawn a v) : IsNatural a v := by
  cases a with
  | integer => obtain ⟨i, rfl, -⟩ := h; exact ⟨i, rfl⟩
  | numeric => obtain ⟨i, rfl, -⟩ := h; exact ⟨i, rfl⟩
  | real => obtain ⟨n, rfl, -⟩ := h; exact ⟨_, rfl⟩
  | text => obtain ⟨s, rfl, -⟩ := h; exact ⟨s, rfl⟩
  | blob => trivial

end Value

/-- The row's values are NULL or natural to their columns. -/
def NaturalRow (columns : List TypedKey) (row : ColumnKey → Option Value) : Prop :=
  ∀ c ∈ columns, ∀ v, row c.key = some v → v = .null ∨ v.IsNatural c.affinity

/-- Neither side of the comparison is converted, whatever its values on the row are. -/
def ComparesAsIs (columns : List TypedKey) (row : ColumnKey → Option Value) (a b : Operand) :
    Prop :=
  ∀ x y, a.valueIn row row = .ok x → b.valueIn row row = .ok y →
    x.compared (a.affinity? columns) (b.affinity? columns) = x ∧
      y.compared (b.affinity? columns) (a.affinity? columns) = y

theorem ComparesAsIs.symm {columns : List TypedKey} {row : ColumnKey → Option Value}
    {a b : Operand} (h : ComparesAsIs columns row a b) : ComparesAsIs columns row b a :=
  fun x y hx hy => (h y x hy hx).symm

namespace Synthesis

variable {columns : List TypedKey}

theorem affinity?_column (hdistinct : DistinctBy TypedKey.key columns)
    {c : TypedKey} (hc : c ∈ columns) :
    (Operand.column c.key).affinity? columns = some c.affinity := by
  simp only [Operand.affinity?, hdistinct.find?_eq hc BEq.rfl, Option.map_some]

/-- A column and a literal natural to it. -/
theorem comparesAsIs_literal (hdistinct : DistinctBy TypedKey.key columns)
    {c : TypedKey} (hc : c ∈ columns) {v : Value} (hv : v = .null ∨ v.IsNatural c.affinity)
    (row : ColumnKey → Option Value) :
    ComparesAsIs columns row (.column c.key) (.literal v) := by
  intro x y _ hy
  cases hy
  rw [affinity?_column hdistinct hc]
  exact ⟨Value.compared_none_right _ x, Value.compared_of_isNatural hv⟩

theorem comparesAsIs_of_partner
    (hdistinct : DistinctBy TypedKey.key columns) {pivot : PivotRow}
    (hpivot : NaturalRow columns pivot.value?) (row : ColumnKey → Option Value)
    {c : TypedKey} (hc : c ∈ columns) {other : Operand} (hother : Partner columns c other)
    (hheld : other.IsHeld pivot) :
    ComparesAsIs columns row (.column c.key) (other.fill pivot) := by
  cases hother with
  -- the placeholder gives way to the pivot row's own value of the column
  | own =>
    obtain ⟨v, hv⟩ := Option.isSome_iff_exists.1 (hheld c.key rfl)
    simp only [Operand.fill, hv, Option.map_some, Option.getD_some]
    exact comparesAsIs_literal hdistinct hc (hpivot c hc v hv) row
  | literal hv =>
    have hdrawn := (Draw.ensures_value c.affinity).of_yields hv
    exact comparesAsIs_literal hdistinct hc (.inr hdrawn.isNatural) row
  | @peer d hd ha _ =>
    intro x y _ _
    simp only [Operand.fill, affinity?_column hdistinct hc, affinity?_column hdistinct hd, ha]
    exact ⟨Value.compared_self _ x, Value.compared_self _ y⟩

end Synthesis

namespace Query

theorem distinctBy_typedKeys {tables : List Table} (h : DistinctKeys tables) :
    DistinctBy TypedKey.key (tables.flatMap Table.typedKeys) := by
  rw [DistinctKeys, ← map_key_typedKeys] at h
  exact (DistinctBy.map (f := id)).1 h

/-- Every leaf of a drawn condition holds a column and what goes with it. With a pivot row of
natural values in it, the condition converts no operand of a comparison, whatever row it is read
on. -/
theorem drawn_comparisons_convert_nothing {tables : List Table} (hkeys : DistinctKeys tables)
    {hints : Bool} {maxDepth : Nat} {s s' : Source} {q : Query}
    (hdraw : draw hints maxDepth tables s = (.ok (.ok q), s')) :
    let columns := tables.flatMap Table.typedKeys
    (∀ l ∈ q.condition.leaves, Synthesis.Leaf columns l) ∧
    ∀ pivot : PivotRow, NaturalRow columns pivot.value? →
      ((∀ c ∈ columns, (pivot.value? c.key).isSome) → ∃ p, q.condition.resolve pivot = .ok p) ∧
      ∀ p, q.condition.resolve pivot = .ok p → ∀ a op b, .compare a op b ∈ p.leaves →
        ∀ row, ComparesAsIs columns row a b := by
  intro columns
  have hdrawn := drawnOver_of_draw hdraw
  have hdistinct := distinctBy_typedKeys hkeys
  refine ⟨hdrawn.leaf_of_mem, fun pivot hpivot => ⟨fun hall => ⟨_, hdrawn.resolve_ok hall⟩, ?_⟩⟩
  intro p hp a op b hleaf row
  obtain ⟨hheld, rfl⟩ := Predicate.resolve_eq_ok_iff.1 hp
  rw [Predicate.leaves_map] at hleaf
  obtain ⟨l, hl, hfilled⟩ := List.mem_map.1 hleaf
  have held (a : Operand) (ha : a ∈ l.operands) : a.IsHeld pivot := by
    refine hheld a ?_
    rw [Predicate.operands_eq]
    exact List.mem_flatMap.2 ⟨l, hl, ha⟩
  cases hdrawn.leaf_of_mem l hl with
  | compare op hc h =>
    cases hfilled
    exact Synthesis.comparesAsIs_of_partner hdistinct hpivot row hc h
      (held _ (by simp [Predicate.operands]))
  | swapped op hc h =>
    cases hfilled
    exact (Synthesis.comparesAsIs_of_partner hdistinct hpivot row hc h
      (held _ (by simp [Predicate.operands]))).symm
  | isNull hc => cases hfilled
  | notNull hc => cases hfilled

/-- A column of reals beside one of texts. -/
def mixedTables : List Table := [⟨⟨"t"⟩, [⟨⟨"a"⟩, "REAL", true⟩, ⟨⟨"b"⟩, "TEXT", true⟩], []⟩]

def mixedRow : PivotRow where
  entries := [(⟨⟨"T"⟩, ⟨"A"⟩⟩, ⟨.real (.quarters 6), ⟨"REAL"⟩⟩),
    (⟨⟨"t"⟩, ⟨"b"⟩⟩, ⟨.text "1", ⟨"TEXT"⟩⟩)]
  distinct := by simp [ColumnKey.beq_eq, Identifier.beq_eq]

theorem drawn_comparisons_convert_nothing_mixed :
    DistinctKeys mixedTables ∧ NaturalRow (mixedTables.flatMap Table.typedKeys) mixedRow.value? ∧
    ∃ q s' p, draw true 6 mixedTables (Source.cycle #[7, 3000000000]) = (.ok (.ok q), s') ∧
      q.condition.resolve mixedRow = .ok p ∧ ∀ a op b, .compare a op b ∈ p.leaves →
        ∀ row, ComparesAsIs (mixedTables.flatMap Table.typedKeys) row a b := by
  have hreal : Affinity.ofDeclaredType "REAL" = .real := by decide +kernel
  have htext : Affinity.ofDeclaredType "TEXT" = .text := by decide +kernel
  have hcolumns : mixedTables.flatMap Table.typedKeys =
      [⟨⟨⟨"t"⟩, ⟨"a"⟩⟩, .real⟩, ⟨⟨⟨"t"⟩, ⟨"b"⟩⟩, .text⟩] := by
    simp [mixedTables, Table.typedKeys, Column.affinity, hreal, htext]
  have hkeys : DistinctKeys mixedTables := by
    simp [DistinctKeys, DistinctBy, mixedTables, Table.keys, ColumnKey.beq_eq, Identifier.beq_eq]
  have ha : mixedRow.value? ⟨⟨"t"⟩, ⟨"a"⟩⟩ = some (.real (.quarters 6)) := by
    simp [PivotRow.value?, PivotRow.get?, PivotRow.held?, mixedRow, ColumnKey.beq_eq,
      Identifier.beq_eq]
  have hb : mixedRow.value? ⟨⟨"t"⟩, ⟨"b"⟩⟩ = some (.text "1") := by
    simp [PivotRow.value?, PivotRow.get?, PivotRow.held?, mixedRow, ColumnKey.beq_eq,
      Identifier.beq_eq]
  have hnatural : NaturalRow (mixedTables.flatMap Table.typedKeys) mixedRow.value? := by
    intro c hc v hv
    rw [hcolumns] at hc
    rcases List.mem_pair.1 hc with rfl | rfl
    · exact .inr ⟨_, Option.some.inj (hv.symm.trans ha)⟩
    · exact .inr ⟨_, Option.some.inj (hv.symm.trans hb)⟩
  obtain ⟨_, s', hdraw, q, rfl, -⟩ := ensures_draw true 6 (by rw [hcolumns]; simp)
    (Source.cycle #[7, 3000000000])
  obtain ⟨-, hpivot⟩ := drawn_comparisons_convert_nothing hkeys hdraw
  obtain ⟨hresolve, hcompare⟩ := hpivot mixedRow hnatural
  obtain ⟨p, hp⟩ := hresolve (by simp [hcolumns, ha, hb])
  exact ⟨hkeys, hnatural, q, s', p, hdraw, hp, hcompare p hp⟩

end Query

end PivotedQuery
