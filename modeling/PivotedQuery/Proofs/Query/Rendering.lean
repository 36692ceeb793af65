import PivotedQuery.Proofs.Predicate.Substitution
/-!
When a query can be rendered. Main statement: just if it names a table, its keys are known and the
pivot row holds those that need a value, and otherwise the first of these conditions that fails is
told, by the first key that it fails for.
-/
namespace PivotedQuery

namespace Predicate

/-- Each operand with a key is either a placeholder or a column. -/
theorem mem_keys_iff {p : Predicate} {key : ColumnKey} :
    key ∈ p.keys ↔ key ∈ p.placeholderKeys ∨ key ∈ p.columnKeys := by
  simp only [keys_eq, placeholderKeys, columnKeys, List.mem_filterMap, List.mem_filter,
    decide_eq_true_eq, ← exists_or, ← or_and_right, ← and_or_left, em, and_true]

end Predicate

namespace Query

variable {q : Query} {tables : List Table} {pivot : PivotRow}

/-- The key is the key of a column, and its table is one of those that the query names. -/
def IsKnown (q : Query) (tables : List Table) (key : ColumnKey) : Prop :=
  (∃ column, lookupColumn tables key = some column) ∧ ∃ f ∈ q.tables, (f.table == key.table) = true

theorem knows_iff {key : ColumnKey} : q.knows tables key = true ↔ q.IsKnown tables key := by
  simp only [knows, Bool.and_eq_true, Option.isSome_iff_exists, List.any_eq_true, IsKnown]

/-- Placeholders are looked up before any column is. -/
theorem error?_rectified (q : Query) (pivot : PivotRow) :
    Except.error? (q.rectified pivot) =
      (q.condition.placeholderKeys.findSome? (absent? pivot)).or
        (q.condition.columnKeys.findSome? (absent? pivot)) := by
  rw [← Predicate.error?_resolve]
  unfold rectified
  cases h : q.condition.resolve pivot with
  | error e => rfl
  | ok p =>
    -- no placeholder is left, so that only columns can be missed from here on
    have hrectify : Except.error? (p.rectify pivot) = Except.error? (p.eval pivot) :=
      Except.error?_map
    rw [← Predicate.error?_eval_of_resolve h, ← hrectify]
    exact Except.error?_map

theorem map_find?_held (keys : List ColumnKey) :
    (keys.find? (!pivot.contains ·)).map .missingPivotValue = keys.findSome? (absent? pivot) := by
  induction keys with
  | nil => rfl
  | cons key keys ih =>
    rw [List.find?_cons, List.findSome?_cons, ← ih, absent?]
    cases pivot.contains key <;> rfl

theorem error?_render (q : Query) (tables : List Table) (pivot : PivotRow) :
    Except.error? (q.render tables pivot) =
      if q.tables = [] then some .noTables
      else ((q.keys.find? (!q.knows tables ·)).map .unknownColumn).or
        ((q.columns.findSome? (absent? pivot)).or (Except.error? (q.rectified pivot))) := by
  rw [← map_find?_held]
  unfold render
  by_cases htables : q.tables = []
  · simp [htables, Except.error?]
  cases hkeys : q.keys.find? (!q.knows tables ·) with
  | some key => simp [htables, Except.error?]
  | none =>
    cases hcolumns : q.columns.find? (!pivot.contains ·) with
    | some key => simp [htables, Except.error?]
    | none =>
      cases hrectified : q.rectified pivot with
      | error e => simp [htables, Except.error?, Except.map]
      | ok r => simp [htables, Except.error?, Except.map]

/-- Why a query is not rendered. Each reason supposes that none of those above it applies. -/
inductive Refusal (q : Query) (tables : List Table) (pivot : PivotRow) : SynthesisError → Prop
  | noTables (hempty : q.tables = []) : Refusal q tables pivot .noTables
  | unknownColumn {key : ColumnKey} (htables : q.tables ≠ [])
      (hfirst : IsFirst (¬ q.IsKnown tables ·) q.keys key) :
      Refusal q tables pivot (.unknownColumn key)
  | column {key : ColumnKey} (htables : q.tables ≠ [])
      (hknown : ∀ key ∈ q.keys, q.IsKnown tables key)
      (hfirst : IsFirst (pivot.contains · = false) q.columns key) :
      Refusal q tables pivot (.missingPivotValue key)
  | placeholder {key : ColumnKey} (htables : q.tables ≠ [])
      (hknown : ∀ key ∈ q.keys, q.IsKnown tables key)
      (hcolumns : ∀ key ∈ q.columns, pivot.contains key = true)
      (hfirst : IsFirst (pivot.contains · = false) q.condition.placeholderKeys key) :
      Refusal q tables pivot (.missingPivotValue key)
  | operand {key : ColumnKey} (htables : q.tables ≠ [])
      (hknown : ∀ key ∈ q.keys, q.IsKnown tables key)
      (hcolumns : ∀ key ∈ q.columns, pivot.contains key = true)
      (hplaceholders : ∀ key ∈ q.condition.placeholderKeys, pivot.contains key = true)
      (hfirst : IsFirst (pivot.contains · = false) q.condition.columnKeys key) :
      Refusal q tables pivot (.missingPivotValue key)

theorem find?_known_eq_none_iff :
    q.keys.find? (!q.knows tables ·) = none ↔ ∀ key ∈ q.keys, q.IsKnown tables key := by
  simp only [List.find?_eq_none, Bool.not_eq_true', Bool.not_eq_false, knows_iff]

theorem find?_known_eq_some_iff {key : ColumnKey} :
    q.keys.find? (!q.knows tables ·) = some key ↔ IsFirst (¬ q.IsKnown tables ·) q.keys key :=
  find?_eq_some_iff_isFirst fun key => by rw [← knows_iff, Bool.not_eq_true, Bool.not_eq_true']

theorem render_eq_ok_iff : (∃ text, q.render tables pivot = .ok text) ↔
    q.tables ≠ [] ∧ (∀ key ∈ q.keys, q.IsKnown tables key) ∧
      (∀ key ∈ q.columns, pivot.contains key = true) ∧
      ∀ key ∈ q.condition.keys, pivot.contains key = true := by
  rw [← Except.error?_eq_none_iff, error?_render, error?_rectified]
  by_cases htables : q.tables = []
  · simp [htables]
  · simp only [htables, if_false, Option.or_eq_none_iff, Option.map_eq_none_iff,
      find?_known_eq_none_iff, findSome?_absent?_eq_none_iff,
      Predicate.mem_keys_iff, or_imp, forall_and, ne_eq, not_false_eq_true, true_and]

theorem render_eq_error_iff {e : SynthesisError} :
    q.render tables pivot = .error e ↔ q.Refusal tables pivot e := by
  rw [← Except.error?_eq_some_iff, error?_render, error?_rectified]
  by_cases htables : q.tables = []
  · simp only [htables, if_true, Option.some.injEq]
    constructor
    · rintro rfl
      exact .noTables htables
    · intro h
      cases h <;> first | rfl | contradiction
  · simp only [htables, if_false, Option.or_eq_some_iff, Option.map_eq_some_iff,
      Option.map_eq_none_iff, find?_known_eq_none_iff, find?_known_eq_some_iff,
      findSome?_absent?_eq_none_iff, findSome?_absent?_eq_some_iff]
    constructor
    · rintro (⟨key, hfirst, rfl⟩ | ⟨hknown, ⟨key, hfirst, rfl⟩ | ⟨hcolumns, ⟨key, hfirst, rfl⟩ |
        ⟨hplaceholders, key, hfirst, rfl⟩⟩⟩)
      · exact .unknownColumn htables hfirst
      · exact .column htables hknown hfirst
      · exact .placeholder htables hknown hcolumns hfirst
      · exact .operand htables hknown hcolumns hplaceholders hfirst
    · intro h
      cases h with
      | noTables hempty => exact absurd hempty htables
      | unknownColumn _ hfirst => exact .inl ⟨_, hfirst, rfl⟩
      | column _ hknown hfirst => exact .inr ⟨hknown, .inl ⟨_, hfirst, rfl⟩⟩
      | placeholder _ hknown hcolumns hfirst =>
        exact .inr ⟨hknown, .inr ⟨hcolumns, .inl ⟨_, hfirst, rfl⟩⟩⟩
      | operand _ hknown hcolumns hplaceholders hfirst =>
        exact .inr ⟨hknown, .inr ⟨hcolumns, .inr ⟨hplaceholders, _, hfirst, rfl⟩⟩⟩

/-- A query is rendered just if it names a table, all of its keys are known, and the pivot row holds
its output columns and the keys of its condition. Else the first of these that fails is told. -/
theorem render_outcome (q : Query) (tables : List Table) (pivot : PivotRow) :
    ((∃ text, q.render tables pivot = .ok text) ↔
      q.tables ≠ [] ∧
      (∀ key ∈ q.columns ++ q.ordering.map (·.column) ++ q.condition.keys,
        q.IsKnown tables key) ∧
      (∀ key ∈ q.columns, pivot.contains key = true) ∧
      (∀ key ∈ q.condition.keys, pivot.contains key = true)) ∧
    ∀ e, q.render tables pivot = .error e ↔ q.Refusal tables pivot e :=
  ⟨render_eq_ok_iff, fun _ => render_eq_error_iff⟩

/-- The column stands first in the condition, but the placeholder is looked up first. -/
def mixedQuery : Query where
  distinct := false
  columns := []
  tables := [⟨⟨"t"⟩, false⟩]
  condition := .and (.isNull (.column numberKey)) (.notNull (.pivot textKey))
  ordering := []

theorem render_outcome_mixed :
    mixedQuery.render twoColumns .empty = .error (.missingPivotValue textKey) ∧
      ∃ text, mixedQuery.render twoColumns threeAndNull = .ok text := by
  have htables : mixedQuery.tables ≠ [] := List.cons_ne_nil _ _
  have hknown : ∀ key ∈ mixedQuery.keys, mixedQuery.IsKnown twoColumns key := by
    simp [← knows_iff, mixedQuery, keys, knows, Predicate.keys, Operand.key?, lookupColumn,
      Table.column?, twoColumns, numberKey, textKey, Identifier.beq_eq]
  have hcolumns (pivot : PivotRow) : ∀ key ∈ mixedQuery.columns, pivot.contains key = true :=
    List.forall_mem_nil _
  have hheld : ∀ key ∈ mixedQuery.condition.keys, threeAndNull.contains key = true := by
    decide +kernel
  have hfirst : IsFirst (PivotRow.empty.contains · = false) mixedQuery.condition.placeholderKeys
      textKey := ⟨[], [], rfl, List.forall_mem_nil _, rfl⟩
  constructor
  · exact ((render_outcome mixedQuery twoColumns .empty).2 _).2
      (.placeholder htables hknown (hcolumns _) hfirst)
  · exact (render_outcome mixedQuery twoColumns threeAndNull).1.2
      ⟨htables, hknown, hcolumns _, hheld⟩

end Query

end PivotedQuery
