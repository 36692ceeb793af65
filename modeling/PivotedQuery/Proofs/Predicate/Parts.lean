import PivotedQuery.Predicate.Basic
import PivotedQuery.Proofs.Fault
/-!
The parts of a condition: its leaves and their operands. Main statement: to resolve a condition is
to fill every placeholder, and it succeeds just if the pivot row has a value for each of them.
-/
namespace PivotedQuery

theorem needed_eq_ok_iff {row : ColumnKey → Option Value} {key : ColumnKey} {v : Value} :
    needed row key = .ok v ↔ row key = some v := by
  unfold needed
  cases row key <;> simp

namespace Operand

/-- A placeholder gives way to its value, where there is one. -/
def fill (row : PivotRow) : Operand → Operand
  | pivot key => ((row.value? key).map literal).getD (pivot key)
  | a => a

def IsHeld (row : PivotRow) (a : Operand) : Prop := ∀ key, a = pivot key → (row.value? key).isSome

def IsPlaceholder (a : Operand) : Prop := ∃ key, a = pivot key

theorem resolve_eq_ok_iff {row : PivotRow} {a b : Operand} :
    a.resolve row = .ok b ↔ a.IsHeld row ∧ b = a.fill row := by
  cases a with
  | column key => simp [resolve, IsHeld, fill, eq_comm (a := b)]
  | literal v => simp [resolve, IsHeld, fill, eq_comm (a := b)]
  | pivot key =>
    unfold resolve needed fill IsHeld
    cases h : row.value? key <;> simp [h, Except.map, eq_comm (a := b)]

theorem not_isPlaceholder_fill {row : PivotRow} {a : Operand} (h : a.IsHeld row) :
    ¬ (a.fill row).IsPlaceholder := by
  rintro ⟨key, hkey⟩
  cases a with
  | column k => simp [fill] at hkey
  | literal v => simp [fill] at hkey
  | pivot k =>
    obtain ⟨v, hv⟩ := Option.isSome_iff_exists.1 (h k rfl)
    simp [fill, hv] at hkey

/-- On a row that holds its key, a filled operand has a value. -/
theorem valueIn_fill {row : PivotRow} {a : Operand}
    (h : ∀ key, a.key? = some key → (row.value? key).isSome) :
    ∃ v, (a.fill row).valueIn row.value? row.value? = .ok v := by
  cases a with
  | literal v => exact ⟨v, rfl⟩
  | column key =>
    obtain ⟨v, hv⟩ := Option.isSome_iff_exists.1 (h key rfl)
    exact ⟨v, needed_eq_ok_iff.2 hv⟩
  | pivot key =>
    obtain ⟨v, hv⟩ := Option.isSome_iff_exists.1 (h key rfl)
    exact ⟨v, by simp [fill, hv, valueIn]⟩

end Operand

namespace Predicate

/-- Comparisons and null tests, from left to right. -/
def leaves : Predicate → List Predicate
  | not p => p.leaves
  | and p q => p.leaves ++ q.leaves
  | or p q => p.leaves ++ q.leaves
  | isUnknown p => p.leaves
  | leaf => [leaf]

def operands : Predicate → List Operand
  | compare a _ b => [a, b]
  | isNull a => [a]
  | notNull a => [a]
  | not p => p.operands
  | and p q => p.operands ++ q.operands
  | or p q => p.operands ++ q.operands
  | isUnknown p => p.operands

def map (f : Operand → Operand) : Predicate → Predicate
  | compare a op b => compare (f a) op (f b)
  | isNull a => isNull (f a)
  | notNull a => notNull (f a)
  | not p => not (p.map f)
  | and p q => and (p.map f) (q.map f)
  | or p q => or (p.map f) (q.map f)
  | isUnknown p => isUnknown (p.map f)

/-- No placeholder is left. -/
def IsResolved (p : Predicate) : Prop := ∀ a ∈ p.operands, ¬ a.IsPlaceholder

theorem keys_eq (p : Predicate) : p.keys = p.operands.filterMap Operand.key? := by
  induction p with
  | compare a op b => cases a <;> cases b <;> rfl
  | isNull a => cases a <;> rfl
  | notNull a => cases a <;> rfl
  | not p ih => exact ih
  | and p q ihp ihq => simp [keys, operands, ihp, ihq]
  | or p q ihp ihq => simp [keys, operands, ihp, ihq]
  | isUnknown p ih => exact ih

theorem operands_eq (p : Predicate) : p.operands = p.leaves.flatMap operands := by
  induction p with
  | compare a op b => rfl
  | isNull a => rfl
  | notNull a => rfl
  | not p ih => exact ih
  | and p q ihp ihq => simp [leaves, operands, ← ihp, ← ihq]
  | or p q ihp ihq => simp [leaves, operands, ← ihp, ← ihq]
  | isUnknown p ih => exact ih

theorem operands_map (f : Operand → Operand) (p : Predicate) :
    (p.map f).operands = p.operands.map f := by
  induction p with
  | compare a op b => rfl
  | isNull a => rfl
  | notNull a => rfl
  | not p ih => exact ih
  | and p q ihp ihq => simp [map, operands, ihp, ihq]
  | or p q ihp ihq => simp [map, operands, ihp, ihq]
  | isUnknown p ih => exact ih

theorem leaves_map (f : Operand → Operand) (p : Predicate) :
    (p.map f).leaves = p.leaves.map (·.map f) := by
  induction p with
  | compare a op b => rfl
  | isNull a => rfl
  | notNull a => rfl
  | not p ih => exact ih
  | and p q ihp ihq => simp [map, leaves, ihp, ihq]
  | or p q ihp ihq => simp [map, leaves, ihp, ihq]
  | isUnknown p ih => exact ih

theorem depth_map (f : Operand → Operand) (p : Predicate) : (p.map f).depth = p.depth := by
  induction p with
  | compare a op b => rfl
  | isNull a => rfl
  | notNull a => rfl
  | not p ih => simp only [map, depth, ih]
  | and p q ihp ihq => simp only [map, depth, ihp, ihq]
  | or p q ihp ihq => simp only [map, depth, ihp, ihq]
  | isUnknown p ih => simp only [map, depth, ih]

theorem resolve_eq_ok_iff {row : PivotRow} {p q : Predicate} :
    p.resolve row = .ok q ↔ (∀ a ∈ p.operands, a.IsHeld row) ∧ q = p.map (·.fill row) := by
  induction p generalizing q with
  | compare a op b =>
    simp only [resolve, Except.map₂_eq_ok_iff, Operand.resolve_eq_ok_iff, operands, map, and_assoc,
      exists_and_left, exists_eq_left, List.forall_mem_cons, List.not_mem_nil,
      false_implies, implies_true, true_and]
  | isNull a =>
    simp only [resolve, Except.map_eq_ok_iff, Operand.resolve_eq_ok_iff, operands, map, and_assoc,
      exists_and_left, exists_eq_left, List.forall_mem_singleton]
  | notNull a =>
    simp only [resolve, Except.map_eq_ok_iff, Operand.resolve_eq_ok_iff, operands, map, and_assoc,
      exists_and_left, exists_eq_left, List.forall_mem_singleton]
  | not p ih =>
    simp only [resolve, Except.map_eq_ok_iff, ih, operands, map, and_assoc, exists_and_left,
      exists_eq_left]
  | and p q ihp ihq =>
    simp only [resolve, Except.map₂_eq_ok_iff, ihp, ihq, operands, map, and_assoc, exists_and_left,
      exists_eq_left, List.forall_mem_append]
  | or p q ihp ihq =>
    simp only [resolve, Except.map₂_eq_ok_iff, ihp, ihq, operands, map, and_assoc, exists_and_left,
      exists_eq_left, List.forall_mem_append]
  | isUnknown p ih =>
    simp only [resolve, Except.map_eq_ok_iff, ih, operands, map, and_assoc, exists_and_left,
      exists_eq_left]

/-- A condition has a truth value where each of its operands has a value. -/
theorem evalIn_ok {row pivot : ColumnKey → Option Value} {p : Predicate}
    (h : ∀ a ∈ p.operands, ∃ v, a.valueIn row pivot = .ok v) : ∃ t, p.evalIn row pivot = .ok t := by
  induction p with
  | compare a op b =>
    obtain ⟨x, hx⟩ := h a (by simp [operands])
    obtain ⟨y, hy⟩ := h b (by simp [operands])
    exact ⟨_, Except.map₂_eq_ok_iff.2 ⟨x, hx, y, hy, rfl⟩⟩
  | isNull a =>
    obtain ⟨x, hx⟩ := h a (by simp [operands])
    exact ⟨_, Except.map_eq_ok_iff.2 ⟨x, hx, rfl⟩⟩
  | notNull a =>
    obtain ⟨x, hx⟩ := h a (by simp [operands])
    exact ⟨_, Except.map_eq_ok_iff.2 ⟨x, hx, rfl⟩⟩
  | not p ih =>
    obtain ⟨t, ht⟩ := ih h
    exact ⟨_, Except.map_eq_ok_iff.2 ⟨t, ht, rfl⟩⟩
  | and p q ihp ihq =>
    obtain ⟨hp, hq⟩ := List.forall_mem_append.1 h
    obtain ⟨t, ht⟩ := ihp hp
    obtain ⟨u, hu⟩ := ihq hq
    exact ⟨_, Except.map₂_eq_ok_iff.2 ⟨t, ht, u, hu, rfl⟩⟩
  | or p q ihp ihq =>
    obtain ⟨hp, hq⟩ := List.forall_mem_append.1 h
    obtain ⟨t, ht⟩ := ihp hp
    obtain ⟨u, hu⟩ := ihq hq
    exact ⟨_, Except.map₂_eq_ok_iff.2 ⟨t, ht, u, hu, rfl⟩⟩
  | isUnknown p ih =>
    obtain ⟨t, ht⟩ := ih h
    exact ⟨_, Except.map_eq_ok_iff.2 ⟨t, ht, rfl⟩⟩

theorem isResolved_of_resolve {row : PivotRow} {p q : Predicate} (h : p.resolve row = .ok q) :
    q.IsResolved := by
  obtain ⟨hheld, rfl⟩ := resolve_eq_ok_iff.1 h
  intro b hb
  rw [operands_map] at hb
  obtain ⟨a, ha, rfl⟩ := List.mem_map.1 hb
  exact Operand.not_isPlaceholder_fill (hheld a ha)

theorem depth_of_resolve {row : PivotRow} {p q : Predicate} (h : p.resolve row = .ok q) :
    q.depth = p.depth := by
  rw [(resolve_eq_ok_iff.1 h).2, depth_map]

end Predicate

end PivotedQuery
