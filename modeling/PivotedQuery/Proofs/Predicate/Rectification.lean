import PivotedQuery.Proofs.Predicate.Parts
import PivotedQuery.Proofs.Schema.Keys
import PivotedQuery.Query.Basic
/-!
Conditions made true on the pivot row. Main statement: of a condition, its negation and the test
whether it is unknown just one is true on a row, wrapping finds that one, and the text of a rendered
query shows it with every placeholder resolved.
-/
namespace PivotedQuery

namespace Predicate

/-- The condition is true on the row. -/
def holds (p : Predicate) (row : PivotRow) : Bool :=
  match p.eval row with
  | .ok (some true) => true
  | _ => false

theorem holds_of_eval {p : Predicate} {row : PivotRow} (h : p.eval row = .ok (some true)) :
    p.holds row = true := by
  rw [holds, h]

/-- The three conditions of which wrapping takes one. -/
def wrappings (p : Predicate) : List Predicate := [p, not p, isUnknown p]

theorem eval_not {p : Predicate} {row : PivotRow} {t : Truth} (h : p.eval row = .ok t) :
    (not p).eval row = .ok t.not := by
  unfold eval at h ⊢
  simp only [evalIn, h]
  rfl

theorem eval_isUnknown {p : Predicate} {row : PivotRow} {t : Truth} (h : p.eval row = .ok t) :
    (isUnknown p).eval row = .ok t.isUnknown := by
  unfold eval at h ⊢
  simp only [evalIn, h]
  rfl

theorem rectify_eq_ok_iff {p q : Predicate} {row : PivotRow} :
    p.rectify row = .ok q ↔ ∃ t, p.eval row = .ok t ∧ q = p.wrap t :=
  Except.map_eq_ok_iff

theorem eval_wrap {p : Predicate} {row : PivotRow} {t : Truth} (h : p.eval row = .ok t) :
    (p.wrap t).eval row = .ok (some true) := by
  match t, h with
  | some true, h => exact h
  | some false, h => exact eval_not h
  | none, h => exact eval_isUnknown h

theorem wrap_mem_wrappings (p : Predicate) (t : Truth) : p.wrap t ∈ p.wrappings := by
  match t with
  | some true => exact List.mem_cons_self
  | some false => exact List.mem_cons_of_mem _ List.mem_cons_self
  | none => exact List.mem_cons_of_mem _ (List.mem_cons_of_mem _ List.mem_cons_self)

/-- Only the wrapping that is taken is true. -/
theorem eq_wrap_of_eval {p c : Predicate} {row : PivotRow} {t : Truth} (h : p.eval row = .ok t)
    (hc : c ∈ p.wrappings) (htrue : c.eval row = .ok (some true)) : c = p.wrap t := by
  simp only [wrappings, List.mem_cons, List.not_mem_nil, or_false] at hc
  rcases hc with rfl | rfl | rfl
  · rw [h] at htrue
    cases htrue
    rfl
  · rw [eval_not h] at htrue
    match t, htrue with
    | some false, _ => rfl
  · rw [eval_isUnknown h] at htrue
    match t, htrue with
    | none, _ => rfl

theorem depth_wrap_le (p : Predicate) (t : Truth) : (p.wrap t).depth ≤ p.depth + 1 := by
  match t with
  | some true => exact Nat.le_succ _
  | some false => exact Nat.le_of_eq (Nat.add_comm _ _)
  | none => exact Nat.le_of_eq (Nat.add_comm _ _)

theorem operands_wrap (p : Predicate) (t : Truth) : (p.wrap t).operands = p.operands := by
  match t with
  | some true => rfl
  | some false => rfl
  | none => rfl

end Predicate

namespace Query

/-- What stands before the condition, for a list of output columns. -/
def opening (q : Query) (columns : List ColumnKey) : String :=
  "SELECT " ++ (if q.distinct then "DISTINCT " else "") ++
    commaList (columns.map ColumnKey.qualified) ++
    " FROM " ++ commaList (q.tables.map FromItem.sql)

def ending (q : Query) : String :=
  if q.ordering.isEmpty then "" else " ORDER BY " ++ commaList (q.ordering.map OrderTerm.sql)

theorem sql_eq (q : Query) :
    q.sql = q.opening q.columns ++ " WHERE " ++ q.condition.sql ++ q.ending := rfl

theorem rectified_eq_ok_iff {q r : Query} {pivot : PivotRow} :
    q.rectified pivot = .ok r ↔ ∃ p, q.condition.resolve pivot = .ok p ∧
      ∃ c, p.rectify pivot = .ok c ∧ r = { q with condition := c } := by
  simp only [rectified, Except.bind_eq_ok_iff, pure, Except.pure, Except.ok.injEq,
    eq_comm (a := r)]

theorem rectified_of_render {q : Query} {tables : List Table} {pivot : PivotRow}
    {text : RenderedQuery} (h : q.render tables pivot = .ok text) :
    ∃ r, q.rectified pivot = .ok r ∧ text = ⟨r.sql, r.columns⟩ := by
  unfold render at h
  split at h
  · cases h
  split at h
  · cases h
  split at h
  · cases h
  cases hr : q.rectified pivot with
  | error e => rw [hr] at h; cases h
  | ok r => rw [hr] at h; exact ⟨r, rfl, (Except.ok.inj h).symm⟩

theorem eval_of_rectified {q r : Query} {pivot : PivotRow} (h : q.rectified pivot = .ok r) :
    r.condition.eval pivot = .ok (some true) := by
  obtain ⟨p, -, c, hc, rfl⟩ := rectified_eq_ok_iff.1 h
  obtain ⟨t, ht, rfl⟩ := Predicate.rectify_eq_ok_iff.1 hc
  exact Predicate.eval_wrap ht

/-- What is printed as the condition of a rendered query is resolved, true on the pivot row and at
most one level deeper; wrapping takes the one condition of three that is true. -/
theorem rendered_condition_true :
    (∀ (q : Query) (tables : List Table) (pivot : PivotRow) (text : RenderedQuery),
      q.render tables pivot = .ok text → ∃ p c,
        q.condition.resolve pivot = .ok p ∧ p.rectify pivot = .ok c ∧
        text.sql = q.opening text.columns ++ " WHERE " ++ c.sql ++ q.ending ∧
        text.columns = q.columns ∧ c.IsResolved ∧ c.eval pivot = .ok (some true) ∧
        c.depth ≤ q.condition.depth + 1) ∧
    ∀ (p : Predicate) (row : PivotRow) (t : Truth), p.eval row = .ok t →
      ∃ w ∈ p.wrappings, p.rectify row = .ok w ∧
        ∀ c ∈ p.wrappings, c.eval row = .ok (some true) ↔ c = w := by
  constructor
  · intro q tables pivot text h
    obtain ⟨r, hr, rfl⟩ := rectified_of_render h
    obtain ⟨p, hp, c, hc, rfl⟩ := rectified_eq_ok_iff.1 hr
    obtain ⟨t, ht, rfl⟩ := Predicate.rectify_eq_ok_iff.1 hc
    refine ⟨p, p.wrap t, hp, hc, sql_eq _, rfl, ?_, Predicate.eval_wrap ht, ?_⟩
    · intro a ha
      rw [Predicate.operands_wrap] at ha
      exact Predicate.isResolved_of_resolve hp a ha
    · rw [← Predicate.depth_of_resolve hp]
      exact Predicate.depth_wrap_le p t
  · intro p row t ht
    refine ⟨p.wrap t, p.wrap_mem_wrappings t, Predicate.rectify_eq_ok_iff.2 ⟨t, ht, rfl⟩, ?_⟩
    intro c hc
    constructor
    · exact Predicate.eq_wrap_of_eval ht hc
    · rintro rfl
      exact Predicate.eval_wrap ht

/-- A column of numbers and one of texts, in two spellings. -/
def numberKey : ColumnKey := ⟨⟨"t"⟩, ⟨"a"⟩⟩

def textKey : ColumnKey := ⟨⟨"t"⟩, ⟨"b"⟩⟩

def twoColumns : List Table :=
  [⟨⟨"T"⟩, [⟨⟨"A"⟩, "INTEGER", true⟩, ⟨⟨"b"⟩, "TEXT", true⟩], []⟩]

def threeAndNull : PivotRow where
  entries := [(numberKey, ⟨.integer 3, ⟨"INTEGER"⟩⟩), (textKey, ⟨.null, ⟨"TEXT"⟩⟩)]
  distinct := by simp [numberKey, textKey, ColumnKey.beq_eq, Identifier.beq_eq]

def unknownQuery : Query where
  distinct := true
  columns := [textKey, numberKey]
  tables := [⟨⟨"t"⟩, true⟩]
  condition := .not (.and (.compare (.column numberKey) .le (.pivot numberKey))
    (.compare (.pivot textKey) .lt (.column textKey)))
  ordering := [⟨numberKey, true⟩]

theorem rendered_condition_true_of_unknown :
    let c : Predicate := .isUnknown (.not (.and
      (.compare (.column numberKey) .le (.literal (.integer 3)))
      (.compare (.literal .null) .lt (.column textKey))))
    let sql := unknownQuery.opening [textKey, numberKey] ++ " WHERE " ++ c.sql ++
      unknownQuery.ending
    unknownQuery.render twoColumns threeAndNull = .ok ⟨sql, [textKey, numberKey]⟩ ∧
    ∃ p c, unknownQuery.condition.resolve threeAndNull = .ok p ∧
      p.rectify threeAndNull = .ok c ∧ c.eval threeAndNull = .ok (some true) := by
  intro c sql
  have hnumber : threeAndNull.held? numberKey = some (numberKey, ⟨.integer 3, ⟨"INTEGER"⟩⟩) := by
    simp [PivotRow.held?, threeAndNull]
  have htext : threeAndNull.held? textKey = some (textKey, ⟨.null, ⟨"TEXT"⟩⟩) := by
    simp [PivotRow.held?, threeAndNull, numberKey, textKey, ColumnKey.beq_eq, Identifier.beq_eq]
  have hrectified : unknownQuery.rectified threeAndNull =
      .ok { unknownQuery with condition := c } := by
    refine rectified_eq_ok_iff.2 ⟨_, Predicate.resolve_eq_ok_iff.2 ⟨?_, rfl⟩, c, ?_, rfl⟩
    · simp [unknownQuery, Predicate.operands, Operand.IsHeld, PivotRow.value?, PivotRow.get?,
        hnumber, htext]
    · refine Predicate.rectify_eq_ok_iff.2 ⟨none, ?_, ?_⟩
      · simp [unknownQuery, Predicate.map, Operand.fill, Predicate.eval, Predicate.evalIn,
          Operand.valueIn, needed, PivotRow.value?, PivotRow.get?, hnumber, htext, bind,
          Except.bind, pure, Except.pure, Comparison.apply, Value.order, Truth.and, Truth.not]
      · simp [unknownQuery, Predicate.map, Operand.fill, Predicate.wrap, PivotRow.value?,
          PivotRow.get?, hnumber, htext, c]
  have h : unknownQuery.render twoColumns threeAndNull = .ok ⟨sql, [textKey, numberKey]⟩ := by
    have hknown : unknownQuery.keys.find? (!unknownQuery.knows twoColumns ·) = none := by
      simp [unknownQuery, keys, knows, Predicate.keys, Operand.key?, lookupColumn, Table.column?,
        twoColumns, numberKey, textKey, Identifier.beq_eq]
    have hheld : unknownQuery.columns.find? (!threeAndNull.contains ·) = none := by
      simp [unknownQuery, PivotRow.contains, hnumber, htext]
    unfold render
    simp only [hknown, hheld, hrectified]
    rfl
  obtain ⟨p, c, hp, hc, -, -, -, htrue, -⟩ := rendered_condition_true.1 _ _ _ _ h
  exact ⟨h, p, c, hp, hc, htrue⟩

end Query

end PivotedQuery
