import PivotedQuery.Proofs.Dialogue.InStep
import PivotedQuery.Proofs.Pivot.Fetching
import PivotedQuery.Proofs.Query.Case
/-!
The choice of a pivot without the case of names. Main statement: from tables that differ only in the
case of their names the same is drawn, and the same replies lead to outcomes that differ in nothing
else.
-/
namespace PivotedQuery

namespace Draw

variable {α β : Type}

theorem swapIfInBounds_map (f : α → β) (xs : Array α) (i j : Nat) :
    (xs.map f).swapIfInBounds i j = (xs.swapIfInBounds i j).map f := by
  rw [Array.swapIfInBounds_def, Array.swapIfInBounds_def]
  simp only [Array.size_map]
  split
  · split
    · apply Array.ext
      · simp
      · intro k hk hk'
        simp only [Array.getElem_swap, Array.getElem_map, ← apply_ite f]
    · rfl
  · rfl

theorem exchanges_map (f : α → β) (n i : Nat) (d : Digits) (xs : Array α) :
    exchanges n i d (xs.map f) = Array.map f <$> exchanges n i d xs := by
  induction n generalizing i d xs with
  | zero => exact (map_pure _ _).symm
  | succ n ih => simp only [exchanges, map_bind, swapIfInBounds_map, ih]

/-- Which positions are exchanged does not depend on what stands there. -/
theorem shuffle_map (f : α → β) (xs : List α) : shuffle (xs.map f) = List.map f <$> shuffle xs := by
  unfold shuffle
  rw [List.length_map]
  split
  · exact (map_pure _ _).symm
  · rw [← List.map_toArray, exchanges_map]
    simp

theorem run_map {d : Draw α} {s s' : Source} {a : α} (f : α → β) (h : d s = (.ok a, s')) :
    (f <$> d) s = (.ok (f a), s') := by
  rw [map_eq_pure_bind, run_bind h]
  rfl

end Draw

/-! Pivot rows. -/

def lowered (s : String) : String := s.map Char.toLower

/-- What the engine says of a statement quotes the names in it. -/
def ExecutionError.caseFold : ExecutionError → ExecutionError
  | openFailed dataSource cause => openFailed dataSource cause
  | failed sql cause => failed (lowered sql) (lowered cause)
  | interrupted sql => interrupted (lowered sql)

def PivotError.caseFold : PivotError → PivotError
  | noTables => noTables
  | duplicateKey key => duplicateKey key.caseFold
  | rowShape table expected actual => rowShape (lowered table) expected actual
  | execution e => execution e.caseFold

theorem PivotRow.insert_caseFold (p : PivotRow) (key : ColumnKey) (cell : Cell) :
    Except.bimap PivotError.caseFold caseFold (p.insert key cell) =
      p.caseFold.insert key.caseFold cell := by
  have hfold := p.held?_caseFold key
  cases h : p.held? key with
  | none =>
    rw [h] at hfold
    rw [insert_of_not_held h, insert_of_not_held hfold]
    refine congrArg Except.ok (eq_of_entries_eq ?_)
    simp [caseFold, push, foldKey]
  | some held =>
    rw [h] at hfold
    rw [insert_of_held h, insert_of_held hfold]
    rfl

namespace Pivot

open Dialogue (InStep inStep_pure inStep_select inStep_log_bind RepliedAlike)

theorem addCells_caseFold (p : PivotRow) (cells : List (ColumnKey × Cell)) :
    Except.bimap PivotError.caseFold PivotRow.caseFold (addCells p cells) =
      addCells p.caseFold (cells.map PivotRow.foldKey) := by
  induction cells generalizing p with
  | nil => rfl
  | cons e cells ih =>
    rw [List.map_cons]
    unfold addCells
    dsimp only [PivotRow.foldKey]
    rw [← PivotRow.insert_caseFold]
    exact Except.bimap_bind ih

theorem addRow_caseFold (p : PivotRow) (table : Table) (row : List Cell) :
    Except.bimap PivotError.caseFold PivotRow.caseFold (addRow p table row) =
      addRow p.caseFold table.caseFold row := by
  have hlength : table.caseFold.columns.length = table.columns.length := List.length_map _
  unfold addRow
  rw [hlength]
  split
  · rfl
  · rw [Table.keys_caseFold, List.zip_map_left]
    exact addCells_caseFold p _

def Choice.caseFold (c : Choice) : Choice := ⟨c.pivot.caseFold, c.used.map Table.caseFold⟩

/-- What the choice of a pivot comes to, up to case. -/
def foldOutcome : Except PivotError Choice → Except PivotError Choice :=
  Except.bimap PivotError.caseFold Choice.caseFold

/-- The same rows, or failures of the same text up to case. -/
def SameReply (a b : Except ExecutionError Rows) : Prop :=
  Except.bimap ExecutionError.caseFold id a = Except.bimap ExecutionError.caseFold id b

theorem inStep_fetch {c c' : Choice} {tables tables' : List Table} (hc : c.caseFold = c'.caseFold)
    (htables : tables.map Table.caseFold = tables'.map Table.caseFold) :
    InStep SameReply (fun r r' => foldOutcome r = foldOutcome r') (fetch c tables)
      (fetch c' tables') := by
  induction tables generalizing c c' tables' with
  | nil =>
    obtain rfl : tables' = [] := List.map_eq_nil_iff.1 htables.symm
    exact inStep_pure (congrArg Except.ok hc)
  | cons t tables ih =>
    cases tables' with
    | nil => cases htables
    | cons t' tables' =>
      obtain ⟨ht, htables⟩ := List.cons.inj htables
      obtain ⟨hpivot, hused⟩ := Choice.mk.inj hc
      refine (inStep_select _ _).bind ?_
      rintro (e | rows) (e' | rows') hreply
      · have hfold : e.caseFold = e'.caseFold := Except.error.inj hreply
        exact inStep_pure (congrArg (fun e => Except.error (PivotError.execution e)) hfold)
      · cases hreply
      · cases hreply
      obtain rfl : rows = rows' := Except.ok.inj hreply
      cases rows with
      | nil => exact inStep_log_bind (ih hc htables)
      | cons row rows =>
        have hadd : Except.bimap PivotError.caseFold PivotRow.caseFold (addRow c.pivot t row) =
            Except.bimap PivotError.caseFold PivotRow.caseFold (addRow c'.pivot t' row) := by
          rw [addRow_caseFold, addRow_caseFold, hpivot, ht]
        dsimp only
        cases h : addRow c.pivot t row with
        | error e =>
          obtain ⟨e', he', hfold⟩ := Except.error_of_bimap_eq hadd h
          rw [he']
          exact inStep_pure (congrArg Except.error hfold)
        | ok p =>
          obtain ⟨p', hp', hfold⟩ := Except.ok_of_bimap_eq hadd h
          rw [hp']
          refine ih ?_ htables
          rw [Choice.caseFold, Choice.caseFold, hfold, List.map_append, List.map_append, hused,
            List.map_singleton, List.map_singleton, ht]

def Selection.caseFold (s : Selection) : Selection := ⟨s.tables.map Table.caseFold, s.count⟩

theorem Selection.draw_caseFold (tables : List Table) :
    draw (tables.map Table.caseFold) = caseFold <$> draw tables := by
  simp only [draw, List.length_map, Draw.shuffle_map, map_bind, map_pure, bind_map_left,
    caseFold]

/-- From every source the same is drawn for both lists, and replies that are the same up to case
lead to outcomes that are, after equally many queries. -/
def ChosenAlike (tables tables' : List Table) : Prop :=
  ∀ s, ∃ order d order' d' s', choose tables s = (.ok (order, d), s') ∧
    choose tables' s = (.ok (order', d'), s') ∧
    order.map Table.caseFold = order'.map Table.caseFold ∧
    ∀ (σ τ : Type) (db : Backend σ) (db' : Backend τ) (w : World σ) (v : World τ),
      RepliedAlike SameReply (d.exchanges db w) (d'.exchanges db' v) →
      (d.exchanges db w).length = (d'.exchanges db' v).length ∧
        (d.run db w).1.map foldOutcome = (d'.run db' v).1.map foldOutcome

theorem chosenAlike_of_caseFold_eq {tables tables' : List Table}
    (h : tables.map Table.caseFold = tables'.map Table.caseFold) : ChosenAlike tables tables' := by
  intro s
  have alike {d d' : Dialogue (Except PivotError Choice)}
      (hd : InStep SameReply (fun r r' => foldOutcome r = foldOutcome r') d d') (σ τ : Type)
      (db : Backend σ) (db' : Backend τ) (w : World σ) (v : World τ)
      (hreplies : RepliedAlike SameReply (d.exchanges db w) (d'.exchanges db' v)) :
      (d.exchanges db w).length = (d'.exchanges db' v).length ∧
        (d.run db w).1.map foldOutcome = (d'.run db' v).1.map foldOutcome := by
    obtain ⟨hlength, hresult⟩ := hd.of_run hreplies
    refine ⟨hlength, ?_⟩
    generalize (d.run db w).1 = r, (d'.run db' v).1 = r' at hresult
    cases hresult with
    | none => rfl
    | some hpost => exact congrArg some hpost
  by_cases hempty : tables = []
  · subst hempty
    obtain rfl : tables' = [] := List.map_eq_nil_iff.1 h.symm
    exact ⟨_, _, _, _, s, rfl, rfl, rfl, alike (inStep_pure rfl)⟩
  have hempty' : tables' ≠ [] := by
    rintro rfl
    exact hempty (List.map_eq_nil_iff.1 h)
  obtain ⟨sel, s₁, hsel, -⟩ := ensures_selection hempty s
  obtain ⟨sel', s₁', hsel', -⟩ := ensures_selection hempty' s
  have hdraw : Selection.caseFold <$> Selection.draw tables =
      Selection.caseFold <$> Selection.draw tables' := by
    rw [← Selection.draw_caseFold, ← Selection.draw_caseFold, h]
  have hrun := congrFun hdraw s
  rw [Draw.run_map _ hsel, Draw.run_map _ hsel', Prod.mk.injEq, Except.ok.injEq] at hrun
  obtain ⟨hfold, rfl⟩ := hrun
  obtain ⟨horder, hcount⟩ := Selection.mk.inj hfold
  have hchosen : sel.chosen.map Table.caseFold = sel'.chosen.map Table.caseFold := by
    rw [Selection.chosen, Selection.chosen, List.map_take, List.map_take, horder, hcount]
  exact ⟨_, _, _, _, s₁, choose_of_draw hempty hsel, choose_of_draw hempty' hsel', horder,
    alike (inStep_fetch rfl hchosen)⟩

end Pivot

end PivotedQuery
