import PivotedQuery.Containment.Mismatch
import PivotedQuery.Proofs.Pivot.Case
/-!
Verdicts and the case of names. Main statement: where queries, tables and pivot rows differ only in
the case of their names, what is rendered, evaluated, chosen and verified differs in nothing else.
-/
namespace PivotedQuery

theorem rowMatches_caseFold (pivot : PivotRow) (columns : List ColumnKey) (row : List Cell) :
    rowMatches pivot.caseFold (columns.map ColumnKey.caseFold) row =
      rowMatches pivot columns row := by
  simp only [rowMatches, List.length_map, List.zip_map_left, List.all_map, Function.comp_def,
    Prod.map, PivotRow.get?_caseFold, id]

theorem verify_caseFold (pivot : PivotRow) (columns : List ColumnKey) (rows : Rows) :
    verify pivot.caseFold (columns.map ColumnKey.caseFold) rows = verify pivot columns rows := by
  have hmatches : rowMatches pivot.caseFold (columns.map ColumnKey.caseFold) =
      rowMatches pivot columns := funext (rowMatches_caseFold pivot columns)
  rw [verify, hmatches, verify]

/-- Case never changes a verdict. Rendering is refused for the same reason or prints the same query,
the condition keeps its shape and truth values, the choice of a pivot draws the same and comes to
the same, and rows, which hold no names themselves, pass for both pivot rows or for neither. -/
theorem case_never_matters {q q' : Query} {tables tables' : List Table} {pivot pivot' : PivotRow}
    (hq : q.caseFold = q'.caseFold)
    (htables : tables.map Table.caseFold = tables'.map Table.caseFold)
    (hpivot : pivot.caseFold = pivot'.caseFold) :
    Query.RenderedAlike (q.render tables pivot) (q'.render tables' pivot') ∧
    Predicate.TrueAlike (q.condition.resolve pivot) (q'.condition.resolve pivot') ∧
    Predicate.TrueAlike (q.condition.rectify pivot) (q'.condition.rectify pivot') ∧
    Predicate.TrueAlike (do (← q.condition.resolve pivot).rectify pivot)
      (do (← q'.condition.resolve pivot').rectify pivot') ∧
    Pivot.ChosenAlike tables tables' ∧
    ∀ (columns columns' : List ColumnKey) (rows : Rows),
      columns.map ColumnKey.caseFold = columns'.map ColumnKey.caseFold →
      verify pivot columns rows = verify pivot' columns' rows := by
  have hcondition : q.condition.caseFold = q'.condition.caseFold := congrArg Query.condition hq
  have hresolve : foldResult Predicate.caseFold (q.condition.resolve pivot) =
      foldResult Predicate.caseFold (q'.condition.resolve pivot') := by
    rw [Predicate.resolve_caseFold, Predicate.resolve_caseFold, hcondition, hpivot]
  have hrectify : foldResult Predicate.caseFold (q.condition.rectify pivot) =
      foldResult Predicate.caseFold (q'.condition.rectify pivot') := by
    rw [Predicate.rectify_caseFold, Predicate.rectify_caseFold, hcondition, hpivot]
  have hboth (c : Predicate) (row : PivotRow) :
      foldResult Predicate.caseFold (do (← c.resolve row).rectify row) =
        (do (← foldResult Predicate.caseFold (c.resolve row)).rectify row.caseFold) :=
    Except.bimap_bind fun p => p.rectify_caseFold row
  refine ⟨Query.renderedAlike_of_caseFold_eq hq htables hpivot,
    Predicate.trueAlike_of_foldResult_eq hresolve, Predicate.trueAlike_of_foldResult_eq hrectify,
    Predicate.trueAlike_of_foldResult_eq ?_, Pivot.chosenAlike_of_caseFold_eq htables, ?_⟩
  · rw [hboth, hboth, hresolve, hpivot]
  · intro columns columns' rows hcolumns
    rw [← verify_caseFold, hpivot, hcolumns, verify_caseFold]

/-- The same names in capitals. -/
def loudNumberKey : ColumnKey := ⟨⟨"T"⟩, ⟨"A"⟩⟩

def loudTextKey : ColumnKey := ⟨⟨"T"⟩, ⟨"B"⟩⟩

def loudColumns : List Table :=
  [⟨⟨"t"⟩, [⟨⟨"a"⟩, "INTEGER", true⟩, ⟨⟨"B"⟩, "TEXT", true⟩], []⟩]

def loudThreeAndNull : PivotRow where
  entries := [(loudNumberKey, ⟨.integer 3, ⟨"INTEGER"⟩⟩), (loudTextKey, ⟨.null, ⟨"TEXT"⟩⟩)]
  distinct := by simp [loudNumberKey, loudTextKey, ColumnKey.beq_eq, Identifier.beq_eq]

def loudQuery : Query where
  distinct := true
  columns := [loudTextKey, loudNumberKey]
  tables := [⟨⟨"T"⟩, true⟩]
  condition := .not (.and (.compare (.column loudNumberKey) .le (.pivot loudNumberKey))
    (.compare (.pivot loudTextKey) .lt (.column loudTextKey)))
  ordering := [⟨loudNumberKey, true⟩]

open Query (unknownQuery twoColumns threeAndNull numberKey textKey) in
theorem case_never_matters_loud :
    unknownQuery.caseFold = loudQuery.caseFold ∧
    twoColumns.map Table.caseFold = loudColumns.map Table.caseFold ∧
    threeAndNull.caseFold = loudThreeAndNull.caseFold ∧
    numberKey ≠ loudNumberKey ∧
    Query.RenderedAlike (unknownQuery.render twoColumns threeAndNull)
      (loudQuery.render loudColumns loudThreeAndNull) ∧
    Pivot.ChosenAlike twoColumns loudColumns ∧
    ∀ rows, verify threeAndNull [textKey, numberKey] rows =
      verify loudThreeAndNull [loudTextKey, loudNumberKey] rows := by
  have htable : (⟨"t"⟩ : Identifier).caseFold = (⟨"T"⟩ : Identifier).caseFold :=
    Identifier.caseFold_eq_iff.2 (by simp [Identifier.beq_eq])
  have ha : (⟨"a"⟩ : Identifier).caseFold = (⟨"A"⟩ : Identifier).caseFold :=
    Identifier.caseFold_eq_iff.2 (by simp [Identifier.beq_eq])
  have hb : (⟨"b"⟩ : Identifier).caseFold = (⟨"B"⟩ : Identifier).caseFold :=
    Identifier.caseFold_eq_iff.2 (by simp [Identifier.beq_eq])
  have hnumber : numberKey.caseFold = loudNumberKey.caseFold :=
    ColumnKey.caseFold_eq_iff.2 (by simp [ColumnKey.beq_eq, Identifier.beq_eq, numberKey,
      loudNumberKey])
  have htext : textKey.caseFold = loudTextKey.caseFold :=
    ColumnKey.caseFold_eq_iff.2 (by simp [ColumnKey.beq_eq, Identifier.beq_eq, textKey,
      loudTextKey])
  have hq : unknownQuery.caseFold = loudQuery.caseFold := by
    simp [Query.caseFold, unknownQuery, loudQuery, FromItem.caseFold, OrderTerm.caseFold,
      Predicate.caseFold, Predicate.map, Operand.caseFold, hnumber, htext, htable]
  have htables : twoColumns.map Table.caseFold = loudColumns.map Table.caseFold := by
    simp [twoColumns, loudColumns, Table.caseFold, Column.caseFold, htable, ha, hb]
  have hpivot : threeAndNull.caseFold = loudThreeAndNull.caseFold := by
    refine PivotRow.eq_of_entries_eq ?_
    simp [PivotRow.caseFold, PivotRow.foldKey, threeAndNull, loudThreeAndNull, hnumber, htext]
  have hcolumns : [textKey, numberKey].map ColumnKey.caseFold =
      [loudTextKey, loudNumberKey].map ColumnKey.caseFold := by
    simp [hnumber, htext]
  obtain ⟨hrender, -, -, -, hchosen, hverify⟩ := case_never_matters hq htables hpivot
  exact ⟨hq, htables, hpivot, by decide, hrender, hchosen, fun rows => hverify _ _ rows hcolumns⟩

end PivotedQuery
