import PivotedQuery.Proofs.Containment.Check
import PivotedQuery.Proofs.Pivot.Fetching
import PivotedQuery.Proofs.Predicate.Rectification
import PivotedQuery.Proofs.Query.Synthesis
/-!
From a chosen pivot to the check of its query. Main statement: on what the choice of a pivot gives,
drawing a query, rendering it and checking the result cannot fail, save for the reply to the query.
-/
namespace PivotedQuery

namespace Query

variable {tables : List Table} {q : Query} {pivot : PivotRow}

theorem DrawnOver.knows (h : q.DrawnOver tables) (hnames : DistinctNames tables) {key : ColumnKey}
    (hkey : key ∈ tables.flatMap Table.keys) : q.knows tables key = true := by
  have hfrom : key.table ∈ q.tables.map (·.table) := by
    obtain ⟨t, ht, hkey⟩ := List.mem_flatMap.1 hkey
    obtain ⟨c, -, rfl⟩ := mem_keys.1 hkey
    rw [h.tables_eq]
    exact List.mem_map_of_mem ht
  obtain ⟨item, hitem, heq⟩ := List.mem_map.1 hfrom
  rw [Query.knows, isSome_lookupColumn hnames hkey, Bool.true_and, List.any_eq_true]
  exact ⟨item, hitem, by rw [heq]; exact BEq.rfl⟩

theorem DrawnOver.mem_keys (h : q.DrawnOver tables) {key : ColumnKey} (hkey : key ∈ q.keys) :
    key ∈ tables.flatMap Table.keys := by
  have houtput := h.columns_subperm.subset
  rcases List.mem_append.1 hkey with hkey | hkey
  · rcases List.mem_append.1 hkey with hkey | hkey
    · exact houtput hkey
    · obtain ⟨t, ht, rfl⟩ := List.mem_map.1 hkey
      exact houtput (h.mem_columns_of_ordering t ht)
  · rw [Predicate.keys_eq] at hkey
    obtain ⟨a, ha, hakey⟩ := List.mem_filterMap.1 hkey
    obtain ⟨c, hc, rfl⟩ := h.key_mem ha hakey
    rw [← map_key_typedKeys]
    exact List.mem_map_of_mem hc

theorem DrawnOver.rectified_ok (h : q.DrawnOver tables)
    (hpivot : pivot.keys = tables.flatMap Table.keys) : ∃ r, q.rectified pivot = .ok r := by
  have held (c : TypedKey) (hc : c ∈ tables.flatMap Table.typedKeys) :
      (pivot.value? c.key).isSome := by
    refine PivotRow.isSome_value?_of_mem ?_
    rw [hpivot, ← map_key_typedKeys]
    exact List.mem_map_of_mem hc
  -- every operand has a value once the placeholders are filled
  have hvalues : ∀ a ∈ (q.condition.map (·.fill pivot)).operands,
      ∃ v, a.valueIn pivot.value? pivot.value? = .ok v := by
    rw [Predicate.operands_map]
    refine List.forall_mem_map.2 fun a ha => Operand.valueIn_fill fun key hkey => ?_
    obtain ⟨c, hc, rfl⟩ := h.key_mem ha hkey
    exact held c hc
  obtain ⟨t, ht⟩ := Predicate.evalIn_ok hvalues
  exact ⟨_, rectified_eq_ok_iff.2 ⟨_, h.resolve_ok held, _,
    Predicate.rectify_eq_ok_iff.2 ⟨t, ht, rfl⟩, rfl⟩⟩

theorem DrawnOver.columns_held (h : q.DrawnOver tables)
    (hpivot : pivot.keys = tables.flatMap Table.keys) :
    ∀ key ∈ q.columns, pivot.contains key = true := by
  intro key hkey
  refine PivotRow.contains_of_mem ?_
  rw [hpivot]
  exact h.columns_subperm.subset hkey

theorem columns_of_rectified {r : Query} (h : q.rectified pivot = .ok r) :
    r = { q with condition := r.condition } := by
  obtain ⟨_, -, c, -, rfl⟩ := rectified_eq_ok_iff.1 h
  rfl

theorem DrawnOver.render_ok (h : q.DrawnOver tables) (hnames : DistinctNames tables)
    (hpivot : pivot.keys = tables.flatMap Table.keys) :
    ∃ r, q.rectified pivot = .ok r ∧ q.render tables pivot = .ok ⟨r.sql, r.columns⟩ := by
  obtain ⟨r, hr⟩ := h.rectified_ok hpivot
  refine ⟨r, hr, ?_⟩
  have htables : q.tables.isEmpty = false := by
    by_contra hempty
    have hnil : q.tables = [] := by simpa using hempty
    have hcolumns := h.columns_subperm.subset
    rw [List.map_eq_nil_iff.1 (h.tables_eq.symm.trans (by rw [hnil]; rfl))] at hcolumns
    exact h.columns_ne_nil (List.subset_nil.1 hcolumns)
  have hknown : q.keys.find? (!q.knows tables ·) = none := by
    simpa using fun key hkey => h.knows hnames (h.mem_keys hkey)
  have hheld : q.columns.find? (!pivot.contains ·) = none := by
    simpa using h.columns_held hpivot
  unfold render
  simp only [htables, hknown, hheld, hr, Bool.false_eq_true, if_false]
  rfl

/-- Whatever the database answered while the pivot was chosen: if a column was chosen, every draw
gives a query, it can be rendered, and the check fails just where the reply to the query does. -/
theorem chosen_pivot_suffices {tables : List Table} (hnames : DistinctNames tables)
    {s s' : Source} {order : List Table} {d : Dialogue (Except PivotError Pivot.Choice)}
    (hchoose : Pivot.choose tables s = (.ok (order, d), s')) {σ : Type} {db : Backend σ}
    {w w' : World σ} {choice : Pivot.Choice} (hrun : d.run db w = (some (.ok choice), w'))
    (hcolumn : ∃ t ∈ choice.used, t.columns ≠ []) (hints : Bool) (maxDepth : Nat) (s₁ : Source) :
    ∃ q s₂ text, draw hints maxDepth choice.used s₁ = (.ok (.ok q), s₂) ∧
      q.render choice.used choice.pivot = .ok text ∧
      ∀ (τ : Type) (db₁ : Backend τ) (w₁ : World τ),
        ((Containment.check choice.pivot text).run db₁ w₁).1 =
          (db₁.answer (Containment.sending choice.pivot text w₁) (.select text.sql)).1.reply.map
            (Containment.conclude choice.pivot text) := by
  have hcovers := ((Pivot.choose_covers tables).of_run hchoose).of_run hrun choice rfl
  have hcolumns : choice.used.flatMap Table.typedKeys ≠ [] := by
    obtain ⟨t, ht, hne⟩ := hcolumn
    intro hnil
    have := List.flatMap_eq_nil_iff.1 hnil t ht
    exact hne (List.map_eq_nil_iff.1 this)
  obtain ⟨_, s₂, hdraw, q, rfl, hdrawn⟩ := ensures_draw hints maxDepth hcolumns s₁
  obtain ⟨r, hr, hrender⟩ := hdrawn.render_ok (hnames.subperm hcovers.used_subperm) hcovers.keys_eq
  refine ⟨q, s₂, _, hdraw, hrender, fun τ db₁ w₁ => Containment.run_check ?_ db₁ w₁⟩
  rw [columns_of_rectified hr]
  exact hdrawn.columns_held hcovers.keys_eq

/-- A table with a row before one without. -/
def twoTables : List Table :=
  [⟨⟨"t"⟩, [⟨⟨"a"⟩, "INTEGER", true⟩], []⟩, ⟨⟨"U"⟩, [⟨⟨"b"⟩, "", true⟩], []⟩]

def oneRow : Backend Unit where
  answer _
    | .select sql =>
      let empty := sql == "SELECT * FROM \"U\" ORDER BY RANDOM() LIMIT 1"
      (⟨some (.ok (if empty then [] else [[⟨.integer 7, ⟨"INTEGER"⟩⟩]])), [], []⟩, ())
    | _ => (⟨none, [], []⟩, ())

theorem chosen_pivot_suffices_two :
    DistinctNames twoTables ∧ ∃ s order d s' w' choice,
      Pivot.choose twoTables s = (.ok (order, d), s') ∧
      d.run oneRow ⟨(), [], #[], #[]⟩ = (some (.ok choice), w') ∧
      choice.used = twoTables.take 1 ∧
      ∃ q s₂ text, draw true 4 choice.used s' = (.ok (.ok q), s₂) ∧
        q.render choice.used choice.pivot = .ok text ∧
        ((Containment.check choice.pivot text).run oneRow w').1 =
          (oneRow.answer (Containment.sending choice.pivot text w') (.select text.sql)).1.reply.map
            (Containment.conclude choice.pivot text) := by
  have hnames : DistinctNames twoTables := by
    simp [DistinctNames, DistinctBy, twoTables, Identifier.beq_eq]
  obtain ⟨s', hchoose⟩ : ∃ s', Pivot.choose twoTables (Source.cycle #[4000000000]) =
      (.ok (twoTables, Pivot.fetch {} twoTables), s') := ⟨_, rfl⟩
  obtain ⟨choice, w', hrun, hused⟩ : ∃ choice w',
      (Pivot.fetch {} twoTables).run oneRow ⟨(), [], #[], #[]⟩ = (some (.ok choice), w') ∧
        choice.used = twoTables.take 1 := ⟨_, _, rfl, rfl⟩
  have hcolumn : ∃ t ∈ choice.used, t.columns ≠ [] := by
    rw [hused]
    exact ⟨_, List.mem_cons_self, by simp⟩
  obtain ⟨q, s₂, text, hdraw, hrender, hcheck⟩ :=
    chosen_pivot_suffices hnames hchoose hrun hcolumn true 4 s'
  exact ⟨hnames, _, _, _, s', w', choice, hchoose, hrun, hused, q, s₂, text, hdraw, hrender,
    hcheck Unit oneRow w'⟩

end Query

end PivotedQuery
