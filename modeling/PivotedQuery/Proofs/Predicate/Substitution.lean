import PivotedQuery.Proofs.Predicate.Rectification
/-!
Substitution of the placeholders of a condition. Main statement: a condition that is resolved on one
row and evaluated on another reads its columns from the other row and had its placeholders from the
first, and the key that either step misses is the first one in order of appearance.
-/
namespace PivotedQuery

theorem findSome?_pair {α β : Type} {f : α → Option β} {a b : α} :
    [a, b].findSome? f = (f a).or (f b) := by
  rw [← List.singleton_append, List.findSome?_append, List.findSome?_singleton,
    List.findSome?_singleton]

theorem findSome?_filterMap {α β γ : Type} {f : α → Option β} {g : β → Option γ} {xs : List α} :
    (xs.filterMap f).findSome? g = xs.findSome? fun a => (f a).bind g := by
  rw [← List.head?_filterMap, List.filterMap_filterMap, List.head?_filterMap]

/-- What is told of a key that the row does not hold. -/
def absent? (row : PivotRow) (key : ColumnKey) : Option SynthesisError :=
  if row.contains key then none else some (.missingPivotValue key)

theorem absent?_eq_some_iff {row : PivotRow} {key : ColumnKey} {e : SynthesisError} :
    absent? row key = some e ↔ row.contains key = false ∧ e = .missingPivotValue key := by
  simp [absent?, eq_comm (a := e)]

theorem absent?_eq_none_iff {row : PivotRow} {key : ColumnKey} :
    absent? row key = none ↔ ¬ row.contains key = false := by
  simp [absent?]

theorem error?_needed (row : PivotRow) (key : ColumnKey) :
    Except.error? (needed row.value? key) = absent? row key := by
  unfold needed absent? PivotRow.contains PivotRow.value? PivotRow.get?
  cases row.held? key <;> rfl

/-- The first key that the row does not hold. -/
theorem findSome?_absent?_eq_some_iff {row : PivotRow} {keys : List ColumnKey}
    {e : SynthesisError} : keys.findSome? (absent? row) = some e ↔
      ∃ key, IsFirst (row.contains · = false) keys key ∧ e = .missingPivotValue key := by
  simp only [List.findSome?_eq_some_iff, absent?_eq_some_iff, absent?_eq_none_iff, IsFirst]
  constructor
  · rintro ⟨before, key, after, hkeys, ⟨hkey, he⟩, hbefore⟩
    exact ⟨key, ⟨before, after, hkeys, hbefore, hkey⟩, he⟩
  · rintro ⟨key, ⟨before, after, hkeys, hbefore, hkey⟩, he⟩
    exact ⟨before, key, after, hkeys, ⟨hkey, he⟩, hbefore⟩

theorem findSome?_absent?_eq_none_iff {row : PivotRow} {keys : List ColumnKey} :
    keys.findSome? (absent? row) = none ↔ ∀ key ∈ keys, row.contains key = true := by
  simp only [List.findSome?_eq_none_iff, absent?_eq_none_iff, Bool.not_eq_false]

namespace Operand

instance : DecidablePred IsPlaceholder := fun a =>
  match a with
  | column _ => .isFalse (by rintro ⟨_, ⟨⟩⟩)
  | pivot key => .isTrue ⟨key, rfl⟩
  | literal _ => .isFalse (by rintro ⟨_, ⟨⟩⟩)

theorem error?_resolve (row : PivotRow) (a : Operand) :
    Except.error? (a.resolve row) =
      (if a.IsPlaceholder then a.key? else none).bind (absent? row) := by
  cases a with
  | column key => rfl
  | literal v => rfl
  | pivot key =>
    have hplaceholder : (pivot key).IsPlaceholder := ⟨key, rfl⟩
    rw [if_pos hplaceholder, key?, Option.bind_some, ← error?_needed, resolve]
    cases needed row.value? key <;> rfl

/-- A placeholder that is left reads its value from where a column does. -/
theorem error?_valueIn (row : PivotRow) (a : Operand) :
    Except.error? (a.valueIn row.value? row.value?) = a.key?.bind (absent? row) := by
  cases a with
  | column key => exact error?_needed row key
  | pivot key => exact error?_needed row key
  | literal v => rfl

theorem fill_of_not_isPlaceholder {row : PivotRow} {a : Operand} (h : ¬ a.IsPlaceholder) :
    a.fill row = a := by
  cases a with
  | column key => rfl
  | literal v => rfl
  | pivot key => exact absurd ⟨key, rfl⟩ h

theorem key?_fill {row : PivotRow} {a : Operand} (h : a.IsHeld row) :
    (a.fill row).key? = if a.IsPlaceholder then none else a.key? := by
  cases a with
  | column key => rfl
  | literal v => rfl
  | pivot key =>
    obtain ⟨v, hv⟩ := Option.isSome_iff_exists.1 (h key rfl)
    have hplaceholder : (pivot key).IsPlaceholder := ⟨key, rfl⟩
    simp [fill, hv, key?, hplaceholder]

/-- The value that was filled in is the one that the placeholder reads. -/
theorem valueIn_fill_eq {row : PivotRow} {a : Operand} (h : a.IsHeld row)
    (columns pivot : ColumnKey → Option Value) :
    (a.fill row).valueIn columns pivot = a.valueIn columns row.value? := by
  cases a with
  | column key => rfl
  | literal v => rfl
  | pivot key =>
    obtain ⟨v, hv⟩ := Option.isSome_iff_exists.1 (h key rfl)
    simp [fill, hv, valueIn, needed]

end Operand

namespace Predicate

/-- Keys of placeholders in order of appearance. -/
def placeholderKeys (p : Predicate) : List ColumnKey :=
  (p.operands.filter (·.IsPlaceholder)).filterMap Operand.key?

/-- Keys of columns in order of appearance. -/
def columnKeys (p : Predicate) : List ColumnKey :=
  (p.operands.filter (¬ ·.IsPlaceholder)).filterMap Operand.key?

/-- A condition fails to resolve as the first of its operands that does. -/
theorem error?_resolve_operands (row : PivotRow) (p : Predicate) :
    Except.error? (p.resolve row) =
      p.operands.findSome? fun a => Except.error? (a.resolve row) := by
  induction p with
  | compare a op b => simp only [resolve, operands, Except.error?_map₂, findSome?_pair]
  | isNull a => simp only [resolve, operands, Except.error?_map, List.findSome?_singleton]
  | notNull a => simp only [resolve, operands, Except.error?_map, List.findSome?_singleton]
  | not p ih => simp only [resolve, operands, Except.error?_map, ih]
  | and p q ihp ihq =>
    simp only [resolve, operands, Except.error?_map₂, ihp, ihq, List.findSome?_append]
  | or p q ihp ihq =>
    simp only [resolve, operands, Except.error?_map₂, ihp, ihq, List.findSome?_append]
  | isUnknown p ih => simp only [resolve, operands, Except.error?_map, ih]

/-- Neither connective skips its right side, whatever the truth value of the left one. -/
theorem error?_evalIn (row pivot : ColumnKey → Option Value) (p : Predicate) :
    Except.error? (p.evalIn row pivot) =
      p.operands.findSome? fun a => Except.error? (a.valueIn row pivot) := by
  induction p with
  | compare a op b => simp only [evalIn, operands, Except.error?_map₂, findSome?_pair]
  | isNull a => simp only [evalIn, operands, Except.error?_map, List.findSome?_singleton]
  | notNull a => simp only [evalIn, operands, Except.error?_map, List.findSome?_singleton]
  | not p ih => simp only [evalIn, operands, Except.error?_map, ih]
  | and p q ihp ihq =>
    simp only [evalIn, operands, Except.error?_map₂, ihp, ihq, List.findSome?_append]
  | or p q ihp ihq =>
    simp only [evalIn, operands, Except.error?_map₂, ihp, ihq, List.findSome?_append]
  | isUnknown p ih => simp only [evalIn, operands, Except.error?_map, ih]

theorem error?_resolve (row : PivotRow) (p : Predicate) :
    Except.error? (p.resolve row) = p.placeholderKeys.findSome? (absent? row) := by
  simp only [error?_resolve_operands, Operand.error?_resolve, placeholderKeys,
    List.filterMap_filter, findSome?_filterMap, decide_eq_true_eq]

theorem error?_eval (row : PivotRow) (p : Predicate) :
    Except.error? (p.eval row) = p.keys.findSome? (absent? row) := by
  simp only [eval, error?_evalIn, Operand.error?_valueIn, keys_eq, findSome?_filterMap]

theorem map_eq_self {f : Operand → Operand} {p : Predicate} (h : ∀ a ∈ p.operands, f a = a) :
    p.map f = p := by
  induction p with
  | compare a op b =>
    have ha : f a = a := h a (by simp [operands])
    have hb : f b = b := h b (by simp [operands])
    rw [map, ha, hb]
  | isNull a => rw [map, h a (by simp [operands])]
  | notNull a => rw [map, h a (by simp [operands])]
  | not p ih => rw [map, ih h]
  | and p q ihp ihq =>
    obtain ⟨hp, hq⟩ := List.forall_mem_append.1 h
    rw [map, ihp hp, ihq hq]
  | or p q ihp ihq =>
    obtain ⟨hp, hq⟩ := List.forall_mem_append.1 h
    rw [map, ihp hp, ihq hq]
  | isUnknown p ih => rw [map, ih h]

/-- The truth value depends on nothing but what the operands read. -/
theorem evalIn_map {f : Operand → Operand} {row pivot row' pivot' : ColumnKey → Option Value}
    {p : Predicate}
    (h : ∀ a ∈ p.operands, (f a).valueIn row pivot = a.valueIn row' pivot') :
    (p.map f).evalIn row pivot = p.evalIn row' pivot' := by
  induction p with
  | compare a op b =>
    have ha := h a (by simp [operands])
    have hb := h b (by simp [operands])
    simp only [map, evalIn, ha, hb]
  | isNull a => simp only [map, evalIn, h a (by simp [operands])]
  | notNull a => simp only [map, evalIn, h a (by simp [operands])]
  | not p ih => simp only [map, evalIn, ih h]
  | and p q ihp ihq =>
    obtain ⟨hp, hq⟩ := List.forall_mem_append.1 h
    simp only [map, evalIn, ihp hp, ihq hq]
  | or p q ihp ihq =>
    obtain ⟨hp, hq⟩ := List.forall_mem_append.1 h
    simp only [map, evalIn, ihp hp, ihq hq]
  | isUnknown p ih => simp only [map, evalIn, ih h]

variable {p q : Predicate} {pivot : PivotRow}

theorem resolve_eq_self (h : p.IsResolved) (row : PivotRow) : p.resolve row = .ok p := by
  refine resolve_eq_ok_iff.2 ⟨?_, ?_⟩
  · rintro a ha key rfl
    exact absurd ⟨key, rfl⟩ (h _ ha)
  · exact (map_eq_self fun a ha => Operand.fill_of_not_isPlaceholder (h a ha)).symm

theorem keys_of_resolve (h : p.resolve pivot = .ok q) : q.keys = p.columnKeys := by
  obtain ⟨hheld, rfl⟩ := resolve_eq_ok_iff.1 h
  rw [keys_eq, operands_map, List.filterMap_map, columnKeys, List.filterMap_filter]
  apply List.filterMap_congr
  intro a ha
  rw [Function.comp_apply, Operand.key?_fill (hheld a ha)]
  by_cases hplaceholder : a.IsPlaceholder <;> simp [hplaceholder]

theorem eval_of_resolve (h : p.resolve pivot = .ok q) (row : PivotRow) :
    q.eval row = p.evalIn row.value? pivot.value? := by
  obtain ⟨hheld, rfl⟩ := resolve_eq_ok_iff.1 h
  exact evalIn_map fun a ha => Operand.valueIn_fill_eq (hheld a ha) _ _

theorem error?_eval_of_resolve (h : p.resolve pivot = .ok q) (row : PivotRow) :
    Except.error? (q.eval row) = p.columnKeys.findSome? (absent? row) := by
  rw [error?_eval, keys_of_resolve h]

/-- What a condition becomes once its placeholders have given way to the values of `pivot`. -/
structure Substitutes (pivot : PivotRow) (p q : Predicate) : Prop where
  isResolved : q.IsResolved
  depth_eq : q.depth = p.depth
  keys_eq : q.keys = p.columnKeys
  resolve_eq (row : PivotRow) : q.resolve row = .ok q
  eval_eq (row : PivotRow) : q.eval row = p.evalIn row.value? pivot.value?
  eval_eq_error_iff (row : PivotRow) (e : SynthesisError) : q.eval row = .error e ↔
    ∃ key, IsFirst (row.contains · = false) p.columnKeys key ∧ e = .missingPivotValue key
  eval_pivot_eq : q.eval pivot = p.eval pivot

theorem substitutes_of_resolve (h : p.resolve pivot = .ok q) : Substitutes pivot p q where
  isResolved := isResolved_of_resolve h
  depth_eq := depth_of_resolve h
  keys_eq := keys_of_resolve h
  resolve_eq := resolve_eq_self (isResolved_of_resolve h)
  eval_eq := eval_of_resolve h
  eval_eq_error_iff row e := by
    rw [← Except.error?_eq_some_iff, error?_eval_of_resolve h, findSome?_absent?_eq_some_iff]
  eval_pivot_eq := eval_of_resolve h pivot

theorem resolve_eq_error_iff {e : SynthesisError} : p.resolve pivot = .error e ↔
    ∃ key, IsFirst (pivot.contains · = false) p.placeholderKeys key ∧
      e = .missingPivotValue key := by
  rw [← Except.error?_eq_some_iff, error?_resolve, findSome?_absent?_eq_some_iff]

/-- The law of substitution. Resolving is refused just if the row misses a placeholder, and then for
the first one; else the placeholders keep the values they were given, on whatever row the condition
is evaluated. -/
theorem resolve_substitutes (p : Predicate) (pivot : PivotRow) :
    p.keys = p.operands.filterMap Operand.key? ∧
    (∀ q, p.resolve pivot = .ok q → Substitutes pivot p q) ∧
    ((∃ e, p.resolve pivot = .error e) ↔ ∃ key ∈ p.placeholderKeys, pivot.contains key = false) ∧
    ∀ e, p.resolve pivot = .error e ↔ ∃ key,
      IsFirst (pivot.contains · = false) p.placeholderKeys key ∧ e = .missingPivotValue key := by
  refine ⟨keys_eq p, fun q => substitutes_of_resolve, ?_, fun e => resolve_eq_error_iff⟩
  rw [← exists_isFirst_iff]
  constructor
  · rintro ⟨e, he⟩
    obtain ⟨key, hkey, -⟩ := resolve_eq_error_iff.1 he
    exact ⟨key, hkey⟩
  · rintro ⟨key, hkey⟩
    exact ⟨_, resolve_eq_error_iff.2 ⟨key, hkey, rfl⟩⟩

/-- One placeholder and two columns, on a row that has a value for the placeholder and on the row
that has none for anything. -/
theorem resolve_substitutes_number :
    let p : Predicate := .or (.compare (.pivot Query.numberKey) .eq (.column Query.textKey))
      (.isNull (.column Query.numberKey))
    let q : Predicate := .or (.compare (.literal (.integer 3)) .eq (.column Query.textKey))
      (.isNull (.column Query.numberKey))
    p.resolve Query.threeAndNull = .ok q ∧ q.keys = [Query.textKey, Query.numberKey] ∧
      q.eval .empty = .error (.missingPivotValue Query.textKey) ∧
      p.resolve .empty = .error (.missingPivotValue Query.numberKey) := by
  intro p q
  have hvalue : Query.threeAndNull.value? Query.numberKey = some (.integer 3) := by
    simp [PivotRow.value?, PivotRow.get?, PivotRow.held?, Query.threeAndNull]
  have hresolve : p.resolve Query.threeAndNull = .ok q := by
    refine resolve_eq_ok_iff.2 ⟨?_, ?_⟩
    · simp [p, operands, Operand.IsHeld, hvalue]
    · simp [p, q, map, Operand.fill, hvalue]
  have hsub : Substitutes Query.threeAndNull p q := (resolve_substitutes p _).2.1 q hresolve
  have hcolumns : IsFirst (PivotRow.empty.contains · = false) p.columnKeys Query.textKey :=
    ⟨[], [Query.numberKey], rfl, List.forall_mem_nil _, rfl⟩
  have hplaceholder :
      IsFirst (PivotRow.empty.contains · = false) p.placeholderKeys Query.numberKey :=
    ⟨[], [], rfl, List.forall_mem_nil _, rfl⟩
  exact ⟨hresolve, hsub.keys_eq, (hsub.eval_eq_error_iff _ _).2 ⟨_, hcolumns, rfl⟩,
    ((resolve_substitutes p _).2.2.2 _).2 ⟨_, hplaceholder, rfl⟩⟩

end Predicate

end PivotedQuery
