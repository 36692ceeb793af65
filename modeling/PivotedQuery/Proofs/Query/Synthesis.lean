import Mathlib.Data.List.Perm.Subperm
import PivotedQuery.Proofs.Predicate.Parts
import PivotedQuery.Proofs.Random.Value
import PivotedQuery.Query.Synthesis
/-!
What random queries are made of. Main statements: every leaf of a drawn condition holds a column and
what that column may be compared with, and over tables with a column a query is drawn from every
source.
-/
namespace PivotedQuery

namespace Synthesis

/-- What a column may be compared with. -/
inductive Partner (columns : List TypedKey) (c : TypedKey) : Operand → Prop
  | own : Partner columns c (.pivot c.key)
  | literal {v : Value} (hv : (Draw.value c.affinity).Yields v) : Partner columns c (.literal v)
  | peer {d : TypedKey} (hd : d ∈ columns) (ha : d.affinity = c.affinity)
    (hk : (d.key == c.key) = false) : Partner columns c (.column d.key)

inductive Leaf (columns : List TypedKey) : Predicate → Prop
  | compare {c : TypedKey} {other : Operand} (op : Comparison) (hc : c ∈ columns)
    (h : Partner columns c other) : Leaf columns (.compare (.column c.key) op other)
  | swapped {c : TypedKey} {other : Operand} (op : Comparison) (hc : c ∈ columns)
    (h : Partner columns c other) : Leaf columns (.compare other op (.column c.key))
  | isNull {c : TypedKey} (hc : c ∈ columns) : Leaf columns (.isNull (.column c.key))
  | notNull {c : TypedKey} (hc : c ∈ columns) : Leaf columns (.notNull (.column c.key))

theorem Leaf.key_mem {columns : List TypedKey} {l : Predicate} (h : Leaf columns l) {a : Operand}
    (ha : a ∈ l.operands) {key : ColumnKey} (hkey : a.key? = some key) :
    ∃ c ∈ columns, c.key = key := by
  have own {c : TypedKey} (hc : c ∈ columns) (hk : (Operand.column c.key).key? = some key) :
      ∃ c ∈ columns, c.key = key := ⟨c, hc, Option.some.inj hk⟩
  have partner {c : TypedKey} {b : Operand} (hc : c ∈ columns) (hb : Partner columns c b)
      (hk : b.key? = some key) : ∃ c ∈ columns, c.key = key := by
    cases hb with
    | own => exact ⟨c, hc, Option.some.inj hk⟩
    | literal hv => cases hk
    | peer hd ha hne => exact ⟨_, hd, Option.some.inj hk⟩
  cases h with
  | compare op hc hb =>
    rcases List.mem_pair.1 ha with rfl | rfl
    · exact own hc hkey
    · exact partner hc hb hkey
  | swapped op hc hb =>
    rcases List.mem_pair.1 ha with rfl | rfl
    · exact partner hc hb hkey
    · exact own hc hkey
  | isNull hc =>
    rw [List.mem_singleton.1 ha] at hkey
    exact own hc hkey
  | notNull hc =>
    rw [List.mem_singleton.1 ha] at hkey
    exact own hc hkey

theorem isProbability_tenths :
    Draw.isProbability (tenths 2) = true ∧ Draw.isProbability (tenths 3) = true := by
  decide +kernel

theorem isProbability_half : Draw.isProbability half = true := by
  decide +kernel

variable {columns : List TypedKey}

open Draw (ensures_pure ensures_below ensures_chance ensures_pick)

theorem ensures_comparison {c : TypedKey} {other : Operand} (hc : c ∈ columns)
    (h : Partner columns c other) :
    (comparison (.column c.key) other).Ensures (Leaf columns) := by
  apply (ensures_pick (by decide)).bind
  intro op _
  apply (ensures_chance isProbability_half).map
  intro swapped _
  split
  · exact .swapped op hc h
  · exact .compare op hc h

theorem mem_peers {c d : TypedKey} (hd : d ∈ peers columns c) :
    d ∈ columns ∧ d.affinity = c.affinity ∧ (d.key == c.key) = false := by
  obtain ⟨hmem, htest⟩ := List.mem_filter.1 hd
  simp only [bne, Bool.and_eq_true, beq_iff_eq, Bool.not_eq_true'] at htest
  exact ⟨hmem, htest⟩

theorem ensures_leaf (h : columns ≠ []) : (leaf columns).Ensures (Leaf columns) := by
  apply (ensures_pick h).bind
  intro c hc
  apply (ensures_below _ (by decide)).bind
  intro kind _
  split
  · exact ensures_comparison hc .own
  split
  · apply (Draw.ensures_value c.affinity).yields.bind
    intro v hv
    exact ensures_comparison hc (.literal hv)
  split
  · split
    · exact ensures_comparison hc .own
    case isFalse hpeers =>
      apply (ensures_pick (by simpa using hpeers)).bind
      intro d hd
      obtain ⟨hmem, ha, hk⟩ := mem_peers hd
      exact ensures_comparison hc (.peer hmem ha hk)
  split
  · exact ensures_pure (.isNull hc)
  · exact ensures_pure (.notNull hc)

theorem Leaf.leaves_eq {p : Predicate} (h : Leaf columns p) : p.leaves = [p] := by
  cases h <;> rfl

theorem Leaf.depth_eq {p : Predicate} (h : Leaf columns p) : p.depth = 1 := by
  cases h <;> rfl

/-- Every leaf is one of the leaves that are drawn, and there are no more levels than asked for. -/
theorem ensures_predicate (h : columns ≠ []) (depth : Nat) : (predicate columns depth).Ensures
    fun p => (∀ l ∈ p.leaves, Leaf columns l) ∧ p.depth ≤ max depth 1 := by
  -- a leaf is the only leaf of itself, and a level is left for it at any depth
  have single (depth : Nat) : (leaf columns).Ensures
      fun p => (∀ l ∈ p.leaves, Leaf columns l) ∧ p.depth ≤ max depth 1 := by
    apply (ensures_leaf h).mono
    intro p hp
    rw [hp.leaves_eq, hp.depth_eq]
    exact ⟨List.forall_mem_singleton.2 hp, Nat.le_max_right _ _⟩
  induction depth using predicate.induct with
  | case1 => exact single 0
  | case2 => exact single 1
  | case3 depth ih =>
    have hbound {n : Nat} (hn : n ≤ max (depth + 1) 1) : 1 + n ≤ max (depth + 2) 1 := by omega
    apply (ensures_chance isProbability_tenths.2).bind
    intro stop _
    split
    · exact single _
    apply (ensures_below _ (by decide)).bind
    intro kind _
    split
    · exact ih.map fun p hp => ⟨hp.1, hbound hp.2⟩
    · apply ih.bind
      intro p hp
      apply ih.map
      intro q hq
      exact ⟨List.forall_mem_append.2 ⟨hp.1, hq.1⟩, hbound (Nat.max_le.2 ⟨hp.2, hq.2⟩)⟩
    · apply ih.bind
      intro p hp
      apply ih.map
      intro q hq
      exact ⟨List.forall_mem_append.2 ⟨hp.1, hq.1⟩, hbound (Nat.max_le.2 ⟨hp.2, hq.2⟩)⟩
    · exact ih.map fun p hp => ⟨hp.1, hbound hp.2⟩

theorem ensures_fromItem (hints : Bool) (t : Table) : (fromItem hints t).Ensures
    fun f => f.table = t.name ∧ (f.notIndexed = true → hints = true) := by
  unfold fromItem
  split
  case isTrue hhints =>
    exact (ensures_chance isProbability_tenths.2).map fun _ _ => ⟨rfl, fun _ => hhints⟩
  case isFalse => exact ensures_pure ⟨rfl, nofun⟩

theorem ensures_fromItems (hints : Bool) (tables : List Table) :
    (tables.mapM (fromItem hints)).Ensures fun items =>
      items.map (·.table) = tables.map (·.name) ∧
        ∀ f ∈ items, f.notIndexed = true → hints = true := by
  apply (Draw.ensures_mapM_forall₂ tables (ensures_fromItem hints)).mono
  intro items hitems
  induction hitems with
  | nil => exact ⟨rfl, nofun⟩
  | cons hf _ ih =>
    rw [List.map_cons, List.map_cons, hf.1, ih.1]
    exact ⟨rfl, List.forall_mem_cons.2 ⟨hf.2, ih.2⟩⟩

theorem ensures_outputColumns {keys : List ColumnKey} (h : keys ≠ []) :
    (outputColumns keys).Ensures fun output => output ≠ [] ∧ output.Subperm keys := by
  apply (Draw.ensures_shuffle keys).bind
  intro shuffled hperm
  have hlength : 1 ≤ shuffled.length := by
    rw [hperm.length_eq]
    exact List.length_pos_iff.2 h
  refine (Draw.ensures_size hlength).map fun count hcount => ⟨?_, ?_⟩
  · rw [← List.length_pos_iff, List.length_take]
    omega
  · exact (List.take_sublist count shuffled).subperm.trans hperm.subperm

theorem ensures_orderTerms {output : List ColumnKey} (h : output ≠ []) :
    (orderTerms output).Ensures fun terms =>
      terms.length ≤ 2 ∧ Draw.Samples output (terms.map (·.column)) := by
  apply (ensures_chance isProbability_tenths.2).bind
  intro ordered _
  split
  · have hlength : 1 ≤ min output.length 2 := by
      have := List.length_pos_iff.2 h
      omega
    apply (Draw.ensures_size hlength).bind
    intro count hcount
    apply (Draw.ensures_choose (show count ≤ output.length by omega)).bind
    rintro chosen ⟨hchosen, hsample⟩
    have hterm (key : ColumnKey) : (orderTerm key).Ensures fun t => t.column = id key :=
      (ensures_chance isProbability_half).map fun _ _ => rfl
    apply (Draw.ensures_mapM chosen hterm).mono
    intro terms hterms
    rw [List.map_id] at hterms
    have hlength : terms.length = count := by rw [← hchosen, ← hterms, List.length_map]
    rw [hterms]
    exact ⟨by omega, hsample⟩
  · exact ensures_pure ⟨Nat.zero_le _, Draw.samples_nil _⟩

end Synthesis

theorem Table.keys_eq (t : Table) : t.keys = t.typedKeys.map (·.key) := by
  simp [keys, typedKeys]

namespace Query

/-- What every query that is drawn over the tables satisfies. -/
structure DrawnOver (tables : List Table) (q : Query) : Prop where
  tables_eq : q.tables.map (·.table) = tables.map (·.name)
  columns_ne_nil : q.columns ≠ []
  columns_subperm : q.columns.Subperm (tables.flatMap Table.keys)
  mem_columns_of_ordering : ∀ t ∈ q.ordering, t.column ∈ q.columns
  leaf_of_mem : ∀ l ∈ q.condition.leaves, Synthesis.Leaf (tables.flatMap Table.typedKeys) l

theorem map_key_typedKeys (tables : List Table) :
    (tables.flatMap Table.typedKeys).map (·.key) = tables.flatMap Table.keys := by
  simp only [List.map_flatMap, ← Table.keys_eq]

/-- What the settings ask of every query that is drawn with them. -/
structure DrawnWith (hints : Bool) (maxDepth : Nat) (q : Query) : Prop where
  hints_of_notIndexed : ∀ f ∈ q.tables, f.notIndexed = true → hints = true
  length_ordering_le : q.ordering.length ≤ 2
  ordering_sampled : Draw.Samples q.columns (q.ordering.map (·.column))
  depth_le : q.condition.depth ≤ Synthesis.conditionDepth maxDepth

theorem ensures_draw_with (hints : Bool) (maxDepth : Nat) {tables : List Table}
    (h : tables.flatMap Table.typedKeys ≠ []) : (draw hints maxDepth tables).Ensures
      fun r => ∃ q, r = .ok q ∧ q.DrawnOver tables ∧ q.DrawnWith hints maxDepth := by
  have htables : tables.isEmpty = false := by
    cases tables with
    | nil => exact absurd rfl h
    | cons t ts => rfl
  have hkeys : (tables.flatMap Table.typedKeys).map (·.key) ≠ [] := by simpa using h
  unfold draw
  simp only [htables, List.isEmpty_eq_false_iff.2 h, Bool.false_eq_true, if_false]
  apply (Synthesis.ensures_fromItems hints tables).bind
  rintro items ⟨hitems, hhints⟩
  apply (Synthesis.ensures_outputColumns hkeys).bind
  rintro output ⟨hne, hsub⟩
  apply (Synthesis.ensures_orderTerms hne).bind
  rintro order ⟨hlength, hsample⟩
  apply (Synthesis.ensures_predicate h _).bind
  rintro condition ⟨hleaves, hdepth⟩
  apply (Draw.ensures_chance Synthesis.isProbability_tenths.1).map
  intro distinct _
  rw [map_key_typedKeys] at hsub
  have hordering : ∀ t ∈ order, t.column ∈ output := fun t ht =>
    hsample.subset (List.mem_map_of_mem ht)
  have hone : max (Synthesis.conditionDepth maxDepth) 1 = Synthesis.conditionDepth maxDepth :=
    Nat.max_eq_left (Nat.le_max_right _ _)
  rw [hone] at hdepth
  exact ⟨_, rfl, ⟨hitems, hne, hsub, hordering, hleaves⟩, ⟨hhints, hlength, hsample, hdepth⟩⟩

theorem ensures_draw (hints : Bool) (maxDepth : Nat) {tables : List Table}
    (h : tables.flatMap Table.typedKeys ≠ []) :
    (draw hints maxDepth tables).Ensures fun r => ∃ q, r = .ok q ∧ q.DrawnOver tables := by
  apply (ensures_draw_with hints maxDepth h).mono
  rintro _ ⟨q, rfl, hdrawn, -⟩
  exact ⟨q, rfl, hdrawn⟩

/-- The condition names columns of the tables only. -/
theorem DrawnOver.key_mem {tables : List Table} {q : Query} (h : q.DrawnOver tables) {a : Operand}
    (ha : a ∈ q.condition.operands) {key : ColumnKey} (hkey : a.key? = some key) :
    ∃ c ∈ tables.flatMap Table.typedKeys, c.key = key := by
  rw [Predicate.operands_eq] at ha
  obtain ⟨l, hl, ha⟩ := List.mem_flatMap.1 ha
  exact (h.leaf_of_mem l hl).key_mem ha hkey

theorem DrawnOver.resolve_ok {tables : List Table} {q : Query} (h : q.DrawnOver tables)
    {pivot : PivotRow}
    (hpivot : ∀ c ∈ tables.flatMap Table.typedKeys, (pivot.value? c.key).isSome) :
    q.condition.resolve pivot = .ok (q.condition.map (·.fill pivot)) := by
  refine Predicate.resolve_eq_ok_iff.2 ⟨fun a ha key hkey => ?_, rfl⟩
  have hakey : a.key? = some key := by
    rw [hkey]
    rfl
  obtain ⟨c, hc, rfl⟩ := h.key_mem ha hakey
  exact hpivot c hc

/-- A query that is drawn at all is drawn over tables with a column. -/
theorem drawnOver_of_draw {hints : Bool} {maxDepth : Nat} {tables : List Table} {s s' : Source}
    {q : Query} (h : draw hints maxDepth tables s = (.ok (.ok q), s')) : q.DrawnOver tables := by
  by_cases hcolumns : tables.flatMap Table.typedKeys = []
  · unfold draw at h
    simp only [hcolumns, List.isEmpty_nil, if_true] at h
    split at h <;> cases h
  · obtain ⟨r, hr, hdrawn⟩ := (ensures_draw hints maxDepth hcolumns).of_run h
    cases hr
    exact hdrawn

end Query

end PivotedQuery
