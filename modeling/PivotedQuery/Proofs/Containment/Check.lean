import PivotedQuery.Containment.Check
import PivotedQuery.Proofs.Dialogue.Run
import PivotedQuery.Proofs.Pivot.Row
/-!
Runs of the containment check. Main statement: where the pivot row has every output column, the
check is the reply to its query, judged; it passes if the projected row is in the reply.
-/
namespace PivotedQuery

/-- Also for NULL and for what is not a number, whose texts are compared. -/
theorem Cell.equivalence_beq : Equivalence fun a b : Cell => (a == b) = true where
  refl _ := beq_iff.2 ⟨rfl, rfl, .inr rfl⟩
  symm h := by
    obtain ⟨htype, hnull, hplain⟩ := beq_iff.1 h
    exact beq_iff.2 ⟨htype.symm, hnull.symm, hplain.imp (hnull ▸ ·) Eq.symm⟩
  trans h k := by
    obtain ⟨htype, hnull, hplain⟩ := beq_iff.1 h
    obtain ⟨ktype, knull, kplain⟩ := beq_iff.1 k
    refine beq_iff.2 ⟨htype.trans ktype, hnull.trans knull, ?_⟩
    rcases hplain with hplain | hplain
    · exact .inl hplain
    · exact kplain.imp (hnull ▸ ·) hplain.trans

namespace Containment

variable {σ : Type}

def found (pivot : PivotRow) (query : RenderedQuery) (rows : Rows) : Verdict :=
  if verify pivot query.columns rows then .pass
  else .fail ⟨query.sql, pivot, query.columns, rows⟩

/-- What the check makes of the reply to its query. -/
def conclude (pivot : PivotRow) (query : RenderedQuery) :
    Except ExecutionError Rows → Except Fault Verdict
  | .error e => .error (.execution e)
  | .ok rows => .ok (found pivot query rows)

/-- The world in which the query is sent. -/
def sending (pivot : PivotRow) (query : RenderedQuery) (w : World σ) : World σ :=
  ((w.noted (.pivotRow pivot)).noted (.outputColumns query.columns)).noted (.querySent query.sql)

theorem run_judge (db : Backend σ) (pivot : PivotRow) (query : RenderedQuery) (rows : Rows)
    (w : World σ) : ((judge pivot query rows).run db w).1 = some (found pivot query rows) := by
  unfold judge found
  split
  · rfl
  · rfl

theorem run_check {pivot : PivotRow} {query : RenderedQuery}
    (h : ∀ key ∈ query.columns, pivot.contains key = true) (db : Backend σ) (w : World σ) :
    ((check pivot query).run db w).1 =
      (db.answer (sending pivot query w) (.select query.sql)).1.reply.map
        (conclude pivot query) := by
  have hnone : query.columns.find? (!pivot.contains ·) = none := by simpa using h
  unfold check
  simp only [hnone]
  rw [Dialogue.run_seq db (Dialogue.run_log db _ w), Dialogue.run_seq db (Dialogue.run_log db _ _),
    Dialogue.run_seq db (Dialogue.run_log db _ _)]
  have hcall := Dialogue.run_call db (.select query.sql) (sending pivot query w)
  cases hreply : (db.answer (sending pivot query w) (.select query.sql)).1.reply with
  | none =>
    rw [hreply] at hcall
    exact congrArg Prod.fst (Dialogue.run_seq_none db hcall)
  | some reply =>
    rw [hreply] at hcall
    refine (congrArg Prod.fst (Dialogue.run_seq db hcall)).trans ?_
    cases reply with
    | error e => rfl
    | ok rows => exact Dialogue.run_map_fst db (run_judge db pivot query rows _)

theorem rowMatches_project {pivot : PivotRow} {columns : List ColumnKey}
    (h : ∀ key ∈ columns, pivot.contains key = true) :
    rowMatches pivot columns (pivot.project columns) = true := by
  induction columns with
  | nil => rfl
  | cons key columns ih =>
    obtain ⟨hkey, hkeys⟩ := List.forall_mem_cons.1 h
    obtain ⟨cell, hcell⟩ := PivotRow.exists_get?_of_contains hkey
    have hself : (cell == cell) = true := Cell.equivalence_beq.refl cell
    have hrest := ih hkeys
    unfold rowMatches PivotRow.project at hrest ⊢
    rw [List.filterMap_cons_some hcell, List.zip_cons_cons, List.all_cons]
    simp only [hcell, hself, List.length_cons, Nat.add_le_add_iff_right, Bool.true_and]
    exact hrest

theorem verify_of_mem {pivot : PivotRow} {columns : List ColumnKey} {rows : Rows}
    (h : ∀ key ∈ columns, pivot.contains key = true) (hmem : pivot.project columns ∈ rows) :
    verify pivot columns rows = true :=
  List.any_eq_true.2 ⟨_, hmem, rowMatches_project h⟩

theorem reaches_check {pivot : PivotRow} {query : RenderedQuery}
    (h : ∀ key ∈ query.columns, pivot.contains key = true) {db : Backend σ}
    (hdb : db.Replies (.select query.sql) fun reply =>
      ∃ rows, reply = .ok rows ∧ pivot.project query.columns ∈ rows) :
    Dialogue.Reaches db (check pivot query) fun r => r = .ok .pass := by
  intro w
  obtain ⟨_, hreply, rows, rfl, hmem⟩ := hdb (sending pivot query w)
  have hrun := run_check h db w
  rw [hreply, Option.map_some, conclude, found, if_pos (verify_of_mem h hmem)] at hrun
  exact ⟨_, _, Prod.ext hrun rfl, rfl⟩

end Containment

end PivotedQuery
