import PivotedQuery.Pivot.Selection
import PivotedQuery.Proofs.Fault
import PivotedQuery.Proofs.Pivot.Row
import PivotedQuery.Proofs.Random.Ensures
/-!
The parts of choosing a pivot. Main statements: a row that has a cell for each column goes in behind
the entries that are held, under the keys of its table, and some of the tables are drawn in a random
order.
-/
namespace PivotedQuery.Pivot

theorem entries_of_addCells {p p' : PivotRow} {cells : List (ColumnKey × Cell)}
    (h : addCells p cells = .ok p') : p'.entries = p.entries ++ cells := by
  induction cells generalizing p with
  | nil =>
    cases h
    simp
  | cons e rest ih =>
    obtain ⟨mid, hmid, hrest⟩ := Except.bind_eq_ok_iff.1 h
    rw [ih hrest, PivotRow.entries_of_insert hmid, List.append_assoc, List.singleton_append]

theorem addCells_ok {p : PivotRow} {cells : List (ColumnKey × Cell)}
    (h : DistinctBy Prod.fst (p.entries ++ cells)) : ∃ p', addCells p cells = .ok p' := by
  induction cells generalizing p with
  | nil => exact ⟨p, rfl⟩
  | cons e rest ih =>
    have hinsert : p.insert e.1 e.2 = .ok (p.push e.1 e.2 _) :=
      PivotRow.insert_of_not_held (PivotRow.held?_eq_none_of_distinctBy h)
    obtain ⟨p', hp'⟩ := ih (p := p.push e.1 e.2 _) (by
      rw [PivotRow.entries_of_insert hinsert, List.append_assoc]
      exact h)
    exact ⟨p', Except.bind_eq_ok_iff.2 ⟨_, hinsert, hp'⟩⟩

theorem addRow_eq_ok_iff {p p' : PivotRow} {table : Table} {row : List Cell} :
    addRow p table row = .ok p' ↔
      row.length = table.columns.length ∧ addCells p (table.keys.zip row) = .ok p' := by
  unfold addRow
  by_cases hlength : row.length = table.columns.length <;> simp [hlength]

theorem map_fst_zip_keys {table : Table} {row : List Cell}
    (h : row.length = table.columns.length) : (table.keys.zip row).map Prod.fst = table.keys := by
  have hkeys : table.keys.length = row.length := by rw [Table.keys, List.length_map, h]
  exact List.map_fst_zip (Nat.le_of_eq hkeys)

theorem ensures_selection {tables : List Table} (h : tables ≠ []) :
    (Selection.draw tables).Ensures fun s => s.tables.Perm tables ∧ 1 ≤ s.count ∧
      s.count ≤ tables.length := by
  apply (Draw.ensures_size (List.length_pos_iff.2 h)).bind
  intro count hcount
  exact (Draw.ensures_shuffle tables).map fun shuffled hperm => ⟨hperm, hcount⟩

/-- Without tables nothing is drawn, and else some of them are fetched. -/
theorem ensures_choose_cases (tables : List Table) : (choose tables).Ensures fun r =>
    r.2 = pure (.error .noTables) ∨ ∃ chosen, r.2 = fetch {} chosen := by
  unfold choose
  split
  · exact Draw.ensures_pure (.inl rfl)
  case isFalse h =>
    apply (ensures_selection (by simpa using h)).map
    exact fun s _ => .inr ⟨_, rfl⟩

end PivotedQuery.Pivot
