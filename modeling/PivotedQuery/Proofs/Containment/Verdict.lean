import PivotedQuery.Proofs.Containment.Check
import PivotedQuery.Proofs.Dialogue.Transcript
/-!
The verdict of a check. Main statement: the check asks its query at most once, passes just if a
single row shows every cell of the pivot row at its place, and its verdict depends neither on the
order of the rows nor on which of equal cells they hold.
-/
namespace PivotedQuery.Containment

variable {σ : Type} {pivot pivot' : PivotRow} {query : RenderedQuery} {columns : List ColumnKey}
  {row row' : List Cell} {rows rows' : Rows}

/-- The row is wide enough and has at the place of each column a cell equal to the pivot row's. -/
def ShownBy (pivot : PivotRow) (columns : List ColumnKey) (row : List Cell) : Prop :=
  columns.length ≤ row.length ∧ ∀ (i : Nat) (key : ColumnKey), columns[i]? = some key →
    ∃ expected cell, pivot.get? key = some expected ∧ row[i]? = some cell ∧
      (expected == cell) = true

theorem rowMatches_iff : rowMatches pivot columns row = true ↔ ShownBy pivot columns row := by
  unfold rowMatches ShownBy
  rw [Bool.and_eq_true, decide_eq_true_iff, List.all_eq_true]
  refine and_congr_right fun hlength => ⟨fun h i key hkey => ?_, ?_⟩
  · obtain ⟨hi, -⟩ := List.getElem?_eq_some_iff.1 hkey
    have hcell : row[i]? = some row[i] := List.getElem?_eq_getElem (by omega)
    have hzip : (key, row[i]) ∈ columns.zip row :=
      List.mem_of_getElem? (List.getElem?_zip_eq_some.2 ⟨hkey, hcell⟩)
    have htest := h _ hzip
    dsimp only at htest
    split at htest
    case h_1 expected hexpected => exact ⟨expected, row[i], hexpected, hcell, htest⟩
    case h_2 => cases htest
  · rintro h ⟨key, cell⟩ hzip
    obtain ⟨i, hi⟩ := List.mem_iff_getElem?.1 hzip
    obtain ⟨hkey, hcell⟩ := List.getElem?_zip_eq_some.1 hi
    obtain ⟨expected, cell', hexpected, hcell', heq⟩ := h i key hkey
    rw [hcell] at hcell'
    cases hcell'
    dsimp only
    rw [hexpected]
    exact heq

theorem verify_iff :
    verify pivot columns rows = true ↔ ∃ row ∈ rows, ShownBy pivot columns row := by
  simp only [verify, List.any_eq_true, rowMatches_iff]

theorem found_eq_pass_iff :
    found pivot query rows = .pass ↔ ∃ row ∈ rows, ShownBy pivot query.columns row := by
  rw [← verify_iff, found]
  split
  case isTrue h => simp [h]
  case isFalse h => simp [h]

theorem found_of_not_shown (h : ¬∃ row ∈ rows, ShownBy pivot query.columns row) :
    found pivot query rows = .fail ⟨query.sql, pivot, query.columns, rows⟩ :=
  if_neg fun hverify => h (verify_iff.1 hverify)

/-- Cells after those of the output are not looked at. -/
theorem ShownBy.widen (h : ShownBy pivot columns row) (hrow : row <+: row') :
    ShownBy pivot columns row' := by
  obtain ⟨hlength, hcells⟩ := h
  obtain ⟨more, rfl⟩ := hrow
  refine ⟨Nat.le_trans hlength (List.length_append ▸ Nat.le_add_right _ _), fun i key hkey => ?_⟩
  obtain ⟨expected, cell, hexpected, hcell, heq⟩ := hcells i key hkey
  obtain ⟨hi, -⟩ := List.getElem?_eq_some_iff.1 hcell
  exact ⟨expected, cell, hexpected, (List.getElem?_append_left hi).trans hcell, heq⟩

theorem shownBy_of_project (h : ∀ key ∈ columns, pivot.contains key = true)
    (hrow : pivot.project columns <+: row) : ShownBy pivot columns row :=
  (rowMatches_iff.1 (rowMatches_project h)).widen hrow

/-! Equal cells in the place of each other. -/

/-- Cell by cell equal. -/
def EqualRows : List Cell → List Cell → Prop := List.Forall₂ fun a b => (a == b) = true

/-- The same keys with equal cells. -/
def EqualPivots (p p' : PivotRow) : Prop :=
  List.Forall₂ (fun e f => e.1 = f.1 ∧ (e.2 == f.2) = true) p.entries p'.entries

theorem EqualRows.symm (h : EqualRows row row') : EqualRows row' row :=
  List.Forall₂.flip (h.imp fun _ _ => Cell.equivalence_beq.symm)

theorem EqualPivots.symm (h : EqualPivots pivot pivot') : EqualPivots pivot' pivot :=
  List.Forall₂.flip (h.imp fun _ _ hef => ⟨hef.1.symm, Cell.equivalence_beq.symm hef.2⟩)

theorem EqualRows.getElem?_eq_some (h : EqualRows row row') {i : Nat} {cell : Cell}
    (hcell : row[i]? = some cell) : ∃ cell', row'[i]? = some cell' ∧ (cell == cell') = true := by
  obtain ⟨hi, rfl⟩ := List.getElem?_eq_some_iff.1 hcell
  have hi' : i < row'.length := h.length_eq ▸ hi
  exact ⟨row'[i], List.getElem?_eq_getElem hi', h.get hi hi'⟩

theorem EqualPivots.get?_eq_some (h : EqualPivots pivot pivot') {key : ColumnKey} {cell : Cell}
    (hcell : pivot.get? key = some cell) :
    ∃ cell', pivot'.get? key = some cell' ∧ (cell == cell') = true := by
  have hrel := PivotRow.rel_get? (R := fun a b => (a == b) = true) h key
  rw [hcell] at hrel
  generalize pivot'.get? key = o at hrel
  cases hrel with
  | some hequal => exact ⟨_, rfl, hequal⟩

theorem ShownBy.congr (h : ShownBy pivot columns row) (hpivot : EqualPivots pivot pivot')
    (hrow : EqualRows row row') : ShownBy pivot' columns row' := by
  obtain ⟨hlength, hcells⟩ := h
  refine ⟨hrow.length_eq ▸ hlength, fun i key hkey => ?_⟩
  obtain ⟨expected, cell, hexpected, hcell, heq⟩ := hcells i key hkey
  obtain ⟨expected', hexpected', hequal⟩ := hpivot.get?_eq_some hexpected
  obtain ⟨cell', hcell', hequal'⟩ := hrow.getElem?_eq_some hcell
  have heq' : (expected' == cell') = true := Cell.equivalence_beq.trans
    (Cell.equivalence_beq.symm hequal) (Cell.equivalence_beq.trans heq hequal')
  exact ⟨expected', cell', hexpected', hcell', heq'⟩

theorem exists_shownBy_congr (hpivot : EqualPivots pivot pivot')
    (hrows : List.Forall₂ EqualRows rows rows') (h : ∃ row ∈ rows, ShownBy pivot columns row) :
    ∃ row ∈ rows', ShownBy pivot' columns row := by
  obtain ⟨row, hrow, hshown⟩ := h
  induction hrows with
  | nil => cases hrow
  | cons hfirst _ ih =>
    rcases List.mem_cons.1 hrow with rfl | hrow
    · exact ⟨_, List.mem_cons_self, hshown.congr hpivot hfirst⟩
    · obtain ⟨row', hrow', hshown'⟩ := ih hrow
      exact ⟨row', List.mem_cons_of_mem _ hrow', hshown'⟩

/-! What is asked. -/

theorem exchanges_judge (db : Backend σ) (w : World σ) :
    (judge pivot query rows).exchanges db w = [] := by
  unfold judge
  split <;> rfl

theorem exchanges_check (h : ∀ key ∈ query.columns, pivot.contains key = true) (db : Backend σ)
    (w : World σ) : (check pivot query).exchanges db w =
      [⟨.select query.sql, (db.answer (sending pivot query w) (.select query.sql)).1.reply⟩] := by
  have hnone : query.columns.find? (!pivot.contains ·) = none := by simpa using h
  unfold check
  simp only [hnone]
  rw [Dialogue.exchanges_seq db (Dialogue.run_log db _ w),
    Dialogue.exchanges_seq db (Dialogue.run_log db _ _),
    Dialogue.exchanges_seq db (Dialogue.run_log db _ _)]
  -- nothing is asked once the reply has come
  refine (Dialogue.exchanges_bind_of_nil db _ _ fun reply w => ?_).trans
    (Dialogue.exchanges_call db _ _)
  cases reply with
  | error e => rfl
  | ok rows =>
    rw [Dialogue.exchanges_bind_of_nil db _ w fun _ _ => rfl]
    exact exchanges_judge db w

theorem check_of_missing {before after : List ColumnKey} {key : ColumnKey}
    (hcolumns : query.columns = before ++ key :: after)
    (hbefore : ∀ k ∈ before, pivot.contains k = true) (hkey : pivot.contains key = false) :
    check pivot query = pure (.error (.synthesis (.missingPivotValue key))) := by
  have hfirst : query.columns.find? (!pivot.contains ·) = some key := by
    rw [hcolumns, List.find?_append, List.find?_eq_none.2 (by simpa using hbefore)]
    simp [hkey]
  unfold check
  simp only [hfirst]

/-- Where the pivot row lacks an output column, the first such column is at fault and nothing is
asked. Else the query is asked once and its reply decides: a single row has to show the pivot row's
cells in order. Equal cells, NULL and not-a-number included, may stand for each other, rows may
trade places, and more rows do no harm. -/
theorem check_end_to_end (pivot : PivotRow) (query : RenderedQuery) :
    (∀ before key after, query.columns = before ++ key :: after →
      (∀ k ∈ before, pivot.contains k = true) → pivot.contains key = false →
      ∀ (σ : Type) (db : Backend σ) (w : World σ), (check pivot query).run db w =
        (some (.error (.synthesis (.missingPivotValue key))), w)) ∧
    ((∀ key ∈ query.columns, pivot.contains key = true) →
      (∀ (σ : Type) (db : Backend σ) (w : World σ), ∃ reply,
        (check pivot query).exchanges db w = [⟨.select query.sql, reply⟩] ∧
        ((check pivot query).run db w).1 = reply.map (conclude pivot query)) ∧
      ∀ rows, (∃ row ∈ rows, pivot.project query.columns <+: row) →
        found pivot query rows = .pass) ∧
    (∀ rows, (found pivot query rows = .pass ↔
        ∃ row ∈ rows, ShownBy pivot query.columns row) ∧
      ((¬∃ row ∈ rows, ShownBy pivot query.columns row) →
        found pivot query rows = .fail ⟨query.sql, pivot, query.columns, rows⟩)) ∧
    Equivalence (fun a b : Cell => (a == b) = true) ∧
    (∀ rows rows', rows.Perm rows' →
      (found pivot query rows = .pass ↔ found pivot query rows' = .pass)) ∧
    (∀ rows rows', rows ⊆ rows' →
      found pivot query rows = .pass → found pivot query rows' = .pass) ∧
    ∀ pivot' rows rows', EqualPivots pivot pivot' → List.Forall₂ EqualRows rows rows' →
      (found pivot query rows = .pass ↔ found pivot' query rows' = .pass) := by
  have hmore (rows rows' : Rows) (hsub : rows ⊆ rows') (h : found pivot query rows = .pass) :
      found pivot query rows' = .pass := by
    obtain ⟨row, hrow, hshown⟩ := found_eq_pass_iff.1 h
    exact found_eq_pass_iff.2 ⟨row, hsub hrow, hshown⟩
  refine ⟨?_, fun h => ⟨?_, ?_⟩, fun rows => ⟨found_eq_pass_iff, found_of_not_shown⟩,
    Cell.equivalence_beq, ?_, hmore, ?_⟩
  · intro before key after hcolumns hbefore hkey σ db w
    rw [check_of_missing hcolumns hbefore hkey, Dialogue.run_pure]
  · exact fun σ db w => ⟨_, exchanges_check h db w, run_check h db w⟩
  · rintro rows ⟨row, hrow, hprefix⟩
    exact found_eq_pass_iff.2 ⟨row, hrow, shownBy_of_project h hprefix⟩
  · exact fun rows rows' hperm => ⟨hmore _ _ hperm.subset, hmore _ _ hperm.symm.subset⟩
  · intro pivot' rows rows' hpivot hrows
    have hback : List.Forall₂ EqualRows rows' rows :=
      List.Forall₂.flip (hrows.imp fun _ _ => EqualRows.symm)
    rw [found_eq_pass_iff, found_eq_pass_iff]
    exact ⟨exists_shownBy_congr hpivot hrows, exists_shownBy_congr hpivot.symm hback⟩

/-- What is not a number, and NULL. -/
def oddRow : PivotRow where
  entries := [(⟨⟨"t"⟩, ⟨"a"⟩⟩, ⟨.real ⟨0x7ff8000000000000⟩, ⟨"REAL"⟩⟩),
    (⟨⟨"t"⟩, ⟨"b"⟩⟩, ⟨.null, ⟨"TEXT"⟩⟩)]
  distinct := by simp [ColumnKey.beq_eq, Identifier.beq_eq]

/-- Both columns, and one that the pivot row lacks. -/
def oddQueries : RenderedQuery × RenderedQuery :=
  (⟨"SELECT 1", oddRow.keys⟩, ⟨"SELECT 2", oddRow.keys ++ [⟨⟨"t"⟩, ⟨"c"⟩⟩]⟩)

/-- The first row is too short and the second shows a cell more. -/
def oddRows : Rows :=
  let cells := oddRow.entries.map Prod.snd
  [cells.take 1, cells ++ [⟨.integer 0, ⟨"INTEGER"⟩⟩]]

/-- Shows the same rows for every query and breaks down over everything else. -/
def oddAnswers : Backend Unit where
  answer _ r := (⟨match r with
    | .select _ => some (.ok oddRows)
    | _ => none, [], []⟩, ())

theorem check_end_to_end_odd :
    (check oddRow oddQueries.1).exchanges oddAnswers { state := () } =
        [⟨.select "SELECT 1", some (.ok oddRows)⟩] ∧
      ((check oddRow oddQueries.1).run oddAnswers { state := () }).1 = some (.ok .pass) ∧
      (check oddRow oddQueries.2).run oddAnswers { state := () } =
        (some (.error (.synthesis (.missingPivotValue ⟨⟨"t"⟩, ⟨"c"⟩⟩))), { state := () }) := by
  have hheld : ∀ key ∈ oddRow.keys, oddRow.contains key = true := fun _ =>
    PivotRow.contains_of_mem
  have hmissing : oddRow.contains ⟨⟨"t"⟩, ⟨"c"⟩⟩ = false := by
    simp [PivotRow.contains, PivotRow.held?, oddRow, ColumnKey.beq_eq, Identifier.beq_eq]
  obtain ⟨-, hcheck, -⟩ := check_end_to_end oddRow oddQueries.1
  obtain ⟨hrun, hpass⟩ := hcheck hheld
  obtain ⟨reply, hexchanges, hresult⟩ := hrun Unit oddAnswers { state := () }
  have hreply := hexchanges.symm.trans (exchanges_check hheld oddAnswers { state := () })
  cases hreply
  have hcells : oddRow.project oddQueries.1.columns = oddRow.entries.map Prod.snd := by
    decide +kernel
  have hshown : ∃ row ∈ oddRows, oddRow.project oddQueries.1.columns <+: row :=
    ⟨_, List.mem_cons_of_mem _ List.mem_cons_self, hcells ▸ List.prefix_append _ _⟩
  refine ⟨hexchanges, ?_, ?_⟩
  · have hverdict : conclude oddRow oddQueries.1 (.ok oddRows) = .ok .pass :=
      congrArg Except.ok (hpass oddRows hshown)
    exact hresult.trans (congrArg some hverdict)
  · exact (check_end_to_end oddRow oddQueries.2).1 oddRow.keys _ [] rfl hheld hmissing _ _ _

end PivotedQuery.Containment
