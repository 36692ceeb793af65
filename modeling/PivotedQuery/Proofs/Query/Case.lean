import PivotedQuery.Proofs.Predicate.Rectification
import PivotedQuery.Proofs.Schema.Case
/-!
Pivot rows, conditions and queries without the case of their names. Main statement: folding all
names to lower case takes the results of evaluation, resolution, rectification and rendering along.
-/
namespace PivotedQuery

/-! Pivot rows. -/

namespace PivotRow

def foldKey (e : ColumnKey × Cell) : ColumnKey × Cell := (e.1.caseFold, e.2)

def caseFold (p : PivotRow) : PivotRow where
  entries := p.entries.map foldKey
  distinct := by
    rw [List.pairwise_map]
    exact p.distinct.imp fun h => (ColumnKey.caseFold_beq _ _).trans h

theorem held?_caseFold (p : PivotRow) (key : ColumnKey) :
    p.caseFold.held? key.caseFold = (p.held? key).map foldKey := by
  have hkey (e : ColumnKey × Cell) : ((foldKey e).1 == key.caseFold) = (e.1 == key) :=
    ColumnKey.caseFold_beq _ _
  simp only [held?, caseFold, List.find?_map, Function.comp_def, hkey]

theorem get?_caseFold (p : PivotRow) (key : ColumnKey) :
    p.caseFold.get? key.caseFold = p.get? key := by
  rw [get?, held?_caseFold, Option.map_map]
  rfl

theorem value?_caseFold (p : PivotRow) (key : ColumnKey) :
    p.caseFold.value? key.caseFold = p.value? key := by
  rw [value?, get?_caseFold, value?]

theorem contains_caseFold (p : PivotRow) (key : ColumnKey) :
    p.caseFold.contains key.caseFold = p.contains key := by
  rw [contains, held?_caseFold, Option.isSome_map, contains]

end PivotRow

/-! Conditions. -/

def SynthesisError.caseFold : SynthesisError → SynthesisError
  | noTables => noTables
  | noColumns => noColumns
  | unknownColumn key => unknownColumn key.caseFold
  | missingPivotValue key => missingPivotValue key.caseFold

/-- The result of a step up to case, or its error. -/
def foldResult {α β : Type} (f : α → β) : Except SynthesisError α → Except SynthesisError β :=
  Except.bimap SynthesisError.caseFold f

/-- Lookups that do not heed the case of a name. -/
def IgnoresCase (row row' : ColumnKey → Option Value) : Prop :=
  ∀ key, row' key.caseFold = row key

section Conditions

variable {row row' pivot pivot' : ColumnKey → Option Value}

theorem needed_caseFold (h : IgnoresCase row row') (key : ColumnKey) :
    foldResult id (needed row key) = needed row' key.caseFold := by
  unfold needed
  rw [h key]
  cases row key <;> rfl

namespace Operand

def caseFold : Operand → Operand
  | column key => column key.caseFold
  | .pivot key => .pivot key.caseFold
  | literal v => literal v

theorem key?_caseFold (a : Operand) : a.caseFold.key? = a.key?.map ColumnKey.caseFold := by
  cases a <;> rfl

theorem valueIn_caseFold (hrow : IgnoresCase row row') (hpivot : IgnoresCase pivot pivot')
    (a : Operand) :
    foldResult id (a.valueIn row pivot) = a.caseFold.valueIn row' pivot' := by
  cases a with
  | column key => exact needed_caseFold hrow key
  | pivot key => exact needed_caseFold hpivot key
  | literal v => rfl

theorem resolve_caseFold (p : PivotRow) (a : Operand) :
    foldResult caseFold (a.resolve p) = a.caseFold.resolve p.caseFold := by
  cases a with
  | column key => rfl
  | literal v => rfl
  | pivot key =>
    have hneeded := needed_caseFold p.value?_caseFold key
    unfold resolve caseFold
    dsimp only
    rw [← hneeded]
    cases needed p.value? key <;> rfl

end Operand

namespace Predicate

def caseFold (p : Predicate) : Predicate := p.map Operand.caseFold

theorem keys_caseFold (p : Predicate) : p.caseFold.keys = p.keys.map ColumnKey.caseFold := by
  rw [keys_eq, keys_eq, caseFold, operands_map, List.filterMap_map, List.map_filterMap]
  simp only [Function.comp_def, Operand.key?_caseFold]

theorem evalIn_caseFold (hrow : IgnoresCase row row') (hpivot : IgnoresCase pivot pivot')
    (p : Predicate) :
    foldResult id (p.evalIn row pivot) = p.caseFold.evalIn row' pivot' := by
  have hvalue := Operand.valueIn_caseFold hrow hpivot
  unfold caseFold
  induction p with
  | compare a op b =>
    simp only [map, evalIn, ← hvalue]
    exact Except.bimap_bind fun x => Except.bimap_bind fun y => rfl
  | isNull a =>
    simp only [map, evalIn, ← hvalue]
    exact Except.bimap_bind fun x => rfl
  | notNull a =>
    simp only [map, evalIn, ← hvalue]
    exact Except.bimap_bind fun x => rfl
  | not p ih =>
    simp only [map, evalIn, ← ih]
    exact Except.bimap_bind fun x => rfl
  | and p q ihp ihq =>
    simp only [map, evalIn, ← ihp, ← ihq]
    exact Except.bimap_bind fun x => Except.bimap_bind fun y => rfl
  | or p q ihp ihq =>
    simp only [map, evalIn, ← ihp, ← ihq]
    exact Except.bimap_bind fun x => Except.bimap_bind fun y => rfl
  | isUnknown p ih =>
    simp only [map, evalIn, ← ih]
    exact Except.bimap_bind fun x => rfl

theorem eval_caseFold (p : Predicate) (row : PivotRow) :
    foldResult id (p.eval row) = p.caseFold.eval row.caseFold :=
  evalIn_caseFold row.value?_caseFold row.value?_caseFold p

theorem resolve_caseFold (p : Predicate) (row : PivotRow) :
    foldResult caseFold (p.resolve row) = p.caseFold.resolve row.caseFold := by
  have hoperand := Operand.resolve_caseFold row
  unfold caseFold
  induction p with
  | compare a op b =>
    simp only [map, resolve, ← hoperand]
    exact Except.bimap_bind fun x => Except.bimap_bind fun y => rfl
  | isNull a =>
    simp only [map, resolve, ← hoperand]
    exact Except.bimap_bind fun x => rfl
  | notNull a =>
    simp only [map, resolve, ← hoperand]
    exact Except.bimap_bind fun x => rfl
  | not p ih =>
    simp only [map, resolve, ← ih]
    exact Except.bimap_bind fun x => rfl
  | and p q ihp ihq =>
    simp only [map, resolve, ← ihp, ← ihq]
    exact Except.bimap_bind fun x => Except.bimap_bind fun y => rfl
  | or p q ihp ihq =>
    simp only [map, resolve, ← ihp, ← ihq]
    exact Except.bimap_bind fun x => Except.bimap_bind fun y => rfl
  | isUnknown p ih =>
    simp only [map, resolve, ← ih]
    exact Except.bimap_bind fun x => rfl

theorem wrap_caseFold (p : Predicate) (t : Truth) : (p.wrap t).caseFold = p.caseFold.wrap t := by
  match t with
  | some true => rfl
  | some false => rfl
  | none => rfl

theorem rectify_caseFold (p : Predicate) (row : PivotRow) :
    foldResult caseFold (p.rectify row) = p.caseFold.rectify row.caseFold := by
  unfold rectify
  rw [← eval_caseFold]
  refine Except.bimap_bind fun t => ?_
  exact congrArg Except.ok (wrap_caseFold p t)

end Predicate

end Conditions

namespace Predicate

/-- Either the errors or the conditions are the same up to case, and such conditions have the same
truth value on rows that are, or miss the same key. -/
inductive TrueAlike : Except SynthesisError Predicate → Except SynthesisError Predicate → Prop
  | refused {e e' : SynthesisError} (h : e.caseFold = e'.caseFold) :
      TrueAlike (.error e) (.error e')
  | made {p p' : Predicate} (h : p.caseFold = p'.caseFold)
      (heval : ∀ row row' : PivotRow, row.caseFold = row'.caseFold →
        foldResult id (p.eval row) = foldResult id (p'.eval row')) : TrueAlike (.ok p) (.ok p')

theorem trueAlike_of_foldResult_eq {x x' : Except SynthesisError Predicate}
    (h : foldResult caseFold x = foldResult caseFold x') : TrueAlike x x' := by
  cases hx : x with
  | error e =>
    obtain ⟨e', he', hfold⟩ := Except.error_of_bimap_eq h hx
    rw [he']
    exact .refused hfold
  | ok p =>
    obtain ⟨p', hp', hfold⟩ := Except.ok_of_bimap_eq h hx
    rw [hp']
    refine .made hfold fun row row' hrow => ?_
    rw [eval_caseFold, eval_caseFold, hfold, hrow]

end Predicate

/-! Queries. -/

def FromItem.caseFold (f : FromItem) : FromItem := { f with table := f.table.caseFold }

def OrderTerm.caseFold (t : OrderTerm) : OrderTerm := { t with column := t.column.caseFold }

namespace Query

def caseFold (q : Query) : Query where
  distinct := q.distinct
  columns := q.columns.map ColumnKey.caseFold
  tables := q.tables.map FromItem.caseFold
  condition := q.condition.caseFold
  ordering := q.ordering.map OrderTerm.caseFold

theorem keys_caseFold (q : Query) : q.caseFold.keys = q.keys.map ColumnKey.caseFold := by
  simp [keys, caseFold, OrderTerm.caseFold, Predicate.keys_caseFold]

theorem knows_caseFold (q : Query) (tables : List Table) (key : ColumnKey) :
    q.caseFold.knows (tables.map Table.caseFold) key.caseFold = q.knows tables key := by
  have htable (f : FromItem) :
      (f.caseFold.table == key.caseFold.table) = (f.table == key.table) :=
    Identifier.caseFold_beq _ _
  simp only [knows, lookupColumn_caseFold, Option.isSome_map, caseFold, List.any_map,
    Function.comp_def, htable]

theorem rectified_caseFold (q : Query) (pivot : PivotRow) :
    foldResult caseFold (q.rectified pivot) = q.caseFold.rectified pivot.caseFold := by
  unfold rectified
  change _ = (do
    let condition ← q.condition.caseFold.resolve pivot.caseFold
    return { q.caseFold with condition := ← condition.rectify pivot.caseFold })
  rw [← Predicate.resolve_caseFold]
  refine Except.bimap_bind fun c => ?_
  rw [← Predicate.rectify_caseFold]
  exact Except.bimap_bind fun c => rfl

/-- The query that is printed when this one is rendered. -/
def rendered (q : Query) (tables : List Table) (pivot : PivotRow) : Except SynthesisError Query :=
  if q.tables.isEmpty then .error .noTables
  else match q.keys.find? (!q.knows tables ·) with
    | some key => .error (.unknownColumn key)
    | none => match q.columns.find? (!pivot.contains ·) with
      | some key => .error (.missingPivotValue key)
      | none => q.rectified pivot

theorem render_eq (q : Query) (tables : List Table) (pivot : PivotRow) :
    q.render tables pivot = (q.rendered tables pivot).map fun r => ⟨r.sql, r.columns⟩ := by
  unfold render rendered
  split
  · rfl
  cases q.keys.find? (!q.knows tables ·) with
  | some key => rfl
  | none =>
    cases q.columns.find? (!pivot.contains ·) with
    | some key => rfl
    | none => rfl

theorem rendered_caseFold (q : Query) (tables : List Table) (pivot : PivotRow) :
    foldResult caseFold (q.rendered tables pivot) =
      q.caseFold.rendered (tables.map Table.caseFold) pivot.caseFold := by
  have htables : q.caseFold.tables.isEmpty = q.tables.isEmpty := List.isEmpty_map
  have hunknown : q.caseFold.keys.find? (!q.caseFold.knows (tables.map Table.caseFold) ·) =
      (q.keys.find? (!q.knows tables ·)).map ColumnKey.caseFold := by
    simp only [keys_caseFold, List.find?_map, Function.comp_def, knows_caseFold]
  have hmissing : q.caseFold.columns.find? (!pivot.caseFold.contains ·) =
      (q.columns.find? (!pivot.contains ·)).map ColumnKey.caseFold := by
    simp only [caseFold, List.find?_map, Function.comp_def, PivotRow.contains_caseFold]
  unfold rendered
  rw [htables, hunknown, hmissing, ← rectified_caseFold]
  split
  · rfl
  cases q.keys.find? (!q.knows tables ·) with
  | some key => rfl
  | none =>
    cases q.columns.find? (!pivot.contains ·) with
    | some key => rfl
    | none => rfl

/-- Either the errors or the queries that were printed are the same up to case. -/
inductive RenderedAlike :
    Except SynthesisError RenderedQuery → Except SynthesisError RenderedQuery → Prop
  | refused {e e' : SynthesisError} (h : e.caseFold = e'.caseFold) :
      RenderedAlike (.error e) (.error e')
  | printed {r r' : Query} (h : r.caseFold = r'.caseFold) :
      RenderedAlike (.ok ⟨r.sql, r.columns⟩) (.ok ⟨r'.sql, r'.columns⟩)

theorem renderedAlike_of_caseFold_eq {q q' : Query} {tables tables' : List Table}
    {pivot pivot' : PivotRow} (hq : q.caseFold = q'.caseFold)
    (htables : tables.map Table.caseFold = tables'.map Table.caseFold)
    (hpivot : pivot.caseFold = pivot'.caseFold) :
    RenderedAlike (q.render tables pivot) (q'.render tables' pivot') := by
  have hrendered : foldResult caseFold (q.rendered tables pivot) =
      foldResult caseFold (q'.rendered tables' pivot') := by
    rw [rendered_caseFold, rendered_caseFold, hq, htables, hpivot]
  rw [render_eq, render_eq]
  cases h : q.rendered tables pivot with
  | error e =>
    obtain ⟨e', he', hfold⟩ := Except.error_of_bimap_eq hrendered h
    rw [he']
    exact .refused hfold
  | ok r =>
    obtain ⟨r', hr', hfold⟩ := Except.ok_of_bimap_eq hrendered h
    rw [hr']
    exact .printed hfold

end Query

end PivotedQuery
