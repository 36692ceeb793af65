import PivotedQuery.Proofs.Predicate.Rectification
import PivotedQuery.Proofs.Query.Pipeline
/-!
Well-formed queries. Main statement: a query is drawn just if some table has a column, and then it
lists every table, names only their columns, and is no deeper than it may be once it is rendered.
-/
namespace PivotedQuery.Query

/-- What every query satisfies that is drawn over the tables with the settings. -/
structure WellFormed (hints : Bool) (maxDepth : Nat) (tables : List Table) (q : Query) : Prop where
  tables_eq : q.tables.map (·.table) = tables.map (·.name)
  hints_of_notIndexed : ∀ f ∈ q.tables, f.notIndexed = true → hints = true
  columns_ne_nil : q.columns ≠ []
  /-- No key comes more often than in the tables. -/
  columns_subperm : q.columns.Subperm (tables.flatMap Table.keys)
  length_ordering_le : q.ordering.length ≤ 2
  ordering_positions : ∃ positions : List Nat, positions.Nodup ∧
    q.ordering.map (fun t => some t.column) = positions.map (q.columns[·]?)
  keys_subset : q.condition.keys ⊆ tables.flatMap Table.keys
  depth_le : q.condition.depth ≤ max 1 (maxDepth - 1)

theorem DrawnOver.wellFormed {hints : Bool} {maxDepth : Nat} {tables : List Table} {q : Query}
    (hover : q.DrawnOver tables) (hwith : q.DrawnWith hints maxDepth) :
    q.WellFormed hints maxDepth tables where
  tables_eq := hover.tables_eq
  hints_of_notIndexed := hwith.hints_of_notIndexed
  columns_ne_nil := hover.columns_ne_nil
  columns_subperm := hover.columns_subperm
  length_ordering_le := hwith.length_ordering_le
  ordering_positions := by
    obtain ⟨positions, hnodup, hsample⟩ := hwith.ordering_sampled
    exact ⟨positions, hnodup, List.map_map.symm.trans hsample⟩
  keys_subset := fun _ hkey => hover.mem_keys (List.mem_append_right _ hkey)
  depth_le := by
    rw [Nat.max_comm]
    exact hwith.depth_le

/-- Making the condition true on the pivot row costs a level at most. -/
theorem depth_le_of_rectified {q r : Query} {pivot : PivotRow} (h : q.rectified pivot = .ok r) :
    r.condition.depth ≤ q.condition.depth + 1 := by
  obtain ⟨p, hp, c, hc, rfl⟩ := rectified_eq_ok_iff.1 h
  obtain ⟨t, -, rfl⟩ := Predicate.rectify_eq_ok_iff.1 hc
  rw [← Predicate.depth_of_resolve hp]
  exact Predicate.depth_wrap_le p t

section Draw

variable (hints : Bool) (maxDepth : Nat) {tables : List Table}

theorem draw_of_no_tables (s : Source) : draw hints maxDepth [] s = (.ok (.error .noTables), s) :=
  rfl

theorem draw_of_no_columns (hne : tables ≠ []) (h : ∀ t ∈ tables, t.columns = []) (s : Source) :
    draw hints maxDepth tables s = (.ok (.error .noColumns), s) := by
  have hkeys : tables.flatMap Table.typedKeys = [] := by
    refine List.flatMap_eq_nil_iff.2 fun t ht => ?_
    rw [Table.typedKeys, h t ht, List.map_nil]
  unfold draw
  rw [if_neg (by simpa using hne), hkeys]
  rfl

theorem ensures_draw_wellFormed (h : ∃ t ∈ tables, t.columns ≠ []) :
    (draw hints maxDepth tables).Ensures
      fun r => ∃ q, r = .ok q ∧ q.WellFormed hints maxDepth tables := by
  have hcolumns : tables.flatMap Table.typedKeys ≠ [] := by
    obtain ⟨t, ht, hne⟩ := h
    intro hnil
    exact hne (List.map_eq_nil_iff.1 (List.flatMap_eq_nil_iff.1 hnil t ht))
  apply (ensures_draw_with hints maxDepth hcolumns).mono
  rintro _ ⟨q, rfl, hover, hwith⟩
  exact ⟨q, rfl, hover.wellFormed hwith⟩

end Draw

/-- The tables alone decide whether there is a query, and nothing is drawn where there is none.
With two levels to go by, the condition that is printed for a pivot row keeps to them. -/
theorem draw_well_formed (hints : Bool) (maxDepth : Nat) (tables : List Table) (s : Source) :
    (tables = [] → draw hints maxDepth tables s = (.ok (.error .noTables), s)) ∧
    (tables ≠ [] → (∀ t ∈ tables, t.columns = []) →
      draw hints maxDepth tables s = (.ok (.error .noColumns), s)) ∧
    ((∃ t ∈ tables, t.columns ≠ []) → ∃ q s',
      draw hints maxDepth tables s = (.ok (.ok q), s') ∧ q.WellFormed hints maxDepth tables ∧
      (2 ≤ maxDepth → ∀ others pivot text, q.render others pivot = .ok text → ∃ r,
        q.rectified pivot = .ok r ∧
        text.sql = q.opening q.columns ++ " WHERE " ++ r.condition.sql ++ q.ending ∧
        r.condition.depth ≤ maxDepth)) := by
  refine ⟨?_, fun hne h => draw_of_no_columns hints maxDepth hne h s, fun h => ?_⟩
  · rintro rfl
    exact draw_of_no_tables hints maxDepth s
  · obtain ⟨_, s', hdraw, q, rfl, hq⟩ := ensures_draw_wellFormed hints maxDepth h s
    refine ⟨q, s', hdraw, hq, fun hdepth others pivot text hrender => ?_⟩
    obtain ⟨r, hr, rfl⟩ := rectified_of_render hrender
    obtain ⟨p, -, c, -, rfl⟩ := rectified_eq_ok_iff.1 hr
    have hwrapped := depth_le_of_rectified hr
    have hdrawn := hq.depth_le
    exact ⟨_, hr, rfl, by omega⟩

def oneColumn : List Table := [⟨⟨"t"⟩, [⟨⟨"a"⟩, "INTEGER", true⟩], []⟩]

def sevenRow : PivotRow where
  entries := [(⟨⟨"t"⟩, ⟨"a"⟩⟩, ⟨.integer 7, ⟨"INTEGER"⟩⟩)]

theorem draw_well_formed_oneColumn : (∃ t ∈ oneColumn, t.columns ≠ []) ∧ ∃ q s' text r,
    draw true 2 oneColumn ⟨fun _ => 0, 0⟩ = (.ok (.ok q), s') ∧
    q.WellFormed true 2 oneColumn ∧ q.render oneColumn sevenRow = .ok text ∧
    q.rectified sevenRow = .ok r ∧
    text.sql = q.opening q.columns ++ " WHERE " ++ r.condition.sql ++ q.ending ∧
    r.condition.depth ≤ 2 := by
  have hcolumn : ∃ t ∈ oneColumn, t.columns ≠ [] :=
    ⟨_, List.mem_singleton_self _, List.cons_ne_nil _ _⟩
  obtain ⟨q, s', hdraw, hq, hrender⟩ :=
    (draw_well_formed true 2 oneColumn ⟨fun _ => 0, 0⟩).2.2 hcolumn
  have hnames : DistinctNames oneColumn := List.pairwise_singleton _ _
  have hpivot : sevenRow.keys = oneColumn.flatMap Table.keys := rfl
  obtain ⟨_, -, htext⟩ := (drawnOver_of_draw hdraw).render_ok hnames hpivot
  obtain ⟨r, hr, hsql, hdepth⟩ := hrender (Nat.le_refl 2) oneColumn sevenRow _ htext
  exact ⟨hcolumn, q, s', _, r, hdraw, hq, htext, hr, hsql, hdepth⟩

end PivotedQuery.Query
