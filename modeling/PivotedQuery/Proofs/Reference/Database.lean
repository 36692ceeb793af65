import Mathlib.Data.List.Forall2
import PivotedQuery.Proofs.Pivot.Row
import PivotedQuery.Proofs.Predicate.Rectification
import PivotedQuery.Proofs.Random.Value
/-!
Databases of drawn values and the meaning of a query over them. A query takes one row of each of its
tables in every way, keeps those on which its condition is true and shows its columns. Main
statement: of rows that are alike it does not matter which one a result shows, since their cells are
identical.
-/
namespace PivotedQuery

theorem Comparison.same_iff {a b : Value} :
    same a b = true ↔ (a = .null ∧ b = .null) ∨ a.order b = some .eq := by
  cases a <;> cases b <;> simp [same, Value.isNull, Value.order]

namespace Column

/-- The cell of a stored value; a column without a declared type lends it none. -/
def typed (c : Column) (v : Value) : Cell :=
  ⟨v, .resolve (if c.declaredType.isEmpty then none else some c.declaredType) v⟩

/-- NULL or a value that may be drawn for the column. -/
def Stores (c : Column) (v : Value) : Prop := v = .null ∨ (Draw.value c.affinity).Yields v

theorem Stores.eq_of_same {c : Column} {v w : Value} (hv : c.Stores v) (hw : c.Stores w)
    (h : Comparison.same v w = true) : v = w := by
  rcases Comparison.same_iff.1 h with ⟨rfl, rfl⟩ | h
  · rfl
  have hne : v ≠ .null ∧ w ≠ .null := by
    constructor
    · rintro rfl
      cases h
    · rintro rfl
      rw [Value.order_eq_none_iff.2 (.inr rfl)] at h
      cases h
  have drawn := Draw.ensures_value c.affinity
  exact (drawn.of_yields (hv.resolve_left hne.1)).eq_of_order
    (drawn.of_yields (hw.resolve_left hne.2)) h

end Column

namespace Reference

structure StoredTable where
  table : Table
  rows : List (List Value)

namespace StoredTable

def cells (t : StoredTable) (row : List Value) : List Cell :=
  List.zipWith Column.typed t.table.columns row

def entries (t : StoredTable) (row : List Value) : List (ColumnKey × Cell) :=
  t.table.keys.zip (t.cells row)

structure WellFormed (t : StoredTable) : Prop where
  columns_ne_nil : t.table.columns ≠ []
  distinct : DistinctBy Column.name t.table.columns
  stored : ∀ row ∈ t.rows, List.Forall₂ Column.Stores t.table.columns row

theorem WellFormed.length_cells {t : StoredTable} (h : t.WellFormed) {row : List Value}
    (hrow : row ∈ t.rows) : (t.cells row).length = t.table.columns.length := by
  rw [cells, List.length_zipWith, ← (h.stored row hrow).length_eq, Nat.min_self]

theorem WellFormed.map_fst_entries {t : StoredTable} (h : t.WellFormed) {row : List Value}
    (hrow : row ∈ t.rows) : (t.entries row).map Prod.fst = t.table.keys := by
  refine List.map_fst_zip (Nat.le_of_eq ?_)
  rw [h.length_cells hrow, Table.keys, List.length_map]

end StoredTable

/-- One row of each table, in every way. -/
def combinations : List StoredTable → List (List (ColumnKey × Cell))
  | [] => [[]]
  | t :: ts => t.rows.flatMap fun row => (combinations ts).map (t.entries row ++ ·)

variable {t : StoredTable} {ts us : List StoredTable} {es fs : List (ColumnKey × Cell)}

theorem mem_combinations_cons : es ∈ combinations (t :: ts) ↔
    ∃ row ∈ t.rows, ∃ rest ∈ combinations ts, es = t.entries row ++ rest := by
  simp only [combinations, List.mem_flatMap, List.mem_map, eq_comm (a := es)]

theorem append_mem_combinations (hes : es ∈ combinations ts) (hfs : fs ∈ combinations us) :
    es ++ fs ∈ combinations (ts ++ us) := by
  induction ts generalizing es with
  | nil =>
    rw [List.mem_singleton.1 hes]
    exact hfs
  | cons t ts ih =>
    obtain ⟨row, hrow, rest, hrest, rfl⟩ := mem_combinations_cons.1 hes
    rw [List.append_assoc]
    exact mem_combinations_cons.2 ⟨row, hrow, _, ih hrest, rfl⟩

theorem entries_mem_combinations {row : List Value} (h : row ∈ t.rows) :
    t.entries row ∈ combinations [t] :=
  mem_combinations_cons.2 ⟨row, h, [], List.mem_singleton.2 rfl, (List.append_nil _).symm⟩

theorem map_fst_of_mem_combinations (hts : ∀ t ∈ ts, t.WellFormed) (hes : es ∈ combinations ts) :
    es.map Prod.fst = (ts.map (·.table)).flatMap Table.keys := by
  induction ts generalizing es with
  | nil =>
    rw [List.mem_singleton.1 hes]
    rfl
  | cons t ts ih =>
    obtain ⟨ht, hts⟩ := List.forall_mem_cons.1 hts
    obtain ⟨row, hrow, rest, hrest, rfl⟩ := mem_combinations_cons.1 hes
    rw [List.map_append, ht.map_fst_entries hrow, ih hts hrest]
    rfl

theorem distinctBy_of_mem_combinations (hts : ∀ t ∈ ts, t.WellFormed)
    (hnames : DistinctNames (ts.map (·.table))) (hes : es ∈ combinations ts) :
    DistinctBy Prod.fst es := by
  have hkeys := distinctKeys_of_distinctNames hnames
    (List.forall_mem_map.2 fun t ht => (hts t ht).distinct)
  rw [DistinctKeys, ← map_fst_of_mem_combinations hts hes] at hkeys
  exact (DistinctBy.map (f := id)).1 hkeys

/-- Entries under one key that are identical if their values are the same for SQL. -/
def Akin (a b : ColumnKey × Cell) : Prop :=
  a.1 = b.1 ∧ (Comparison.same a.2.value b.2.value = true → a.2 = b.2)

theorem akin_typed {c : Column} {v w : Value} (key : ColumnKey) (hv : c.Stores v)
    (hw : c.Stores w) : Akin (key, c.typed v) (key, c.typed w) :=
  ⟨rfl, fun hsame => congrArg c.typed (hv.eq_of_same hw hsame)⟩

theorem akin_entries (ht : t.WellFormed) {row row' : List Value} (hrow : row ∈ t.rows)
    (hrow' : row' ∈ t.rows) : List.Forall₂ Akin (t.entries row) (t.entries row') := by
  have akin {columns : List Column} {row row' : List Value}
      (h : List.Forall₂ Column.Stores columns row) (h' : List.Forall₂ Column.Stores columns row') :
      List.Forall₂ Akin
        ((columns.map (⟨t.table.name, ·.name⟩)).zip (List.zipWith Column.typed columns row))
        ((columns.map (⟨t.table.name, ·.name⟩)).zip (List.zipWith Column.typed columns row')) := by
    induction h generalizing row' with
    | nil => exact .nil
    | cons hv _ ih =>
      obtain _ | ⟨hv', hrest'⟩ := h'
      exact .cons (akin_typed _ hv hv') (ih hrest')
  exact akin (ht.stored row hrow) (ht.stored row' hrow')

theorem akin_combinations (hts : ∀ t ∈ ts, t.WellFormed) (hes : es ∈ combinations ts)
    (hfs : fs ∈ combinations ts) : List.Forall₂ Akin es fs := by
  induction ts generalizing es fs with
  | nil =>
    rw [List.mem_singleton.1 hes, List.mem_singleton.1 hfs]
    exact .nil
  | cons t ts ih =>
    obtain ⟨ht, hts⟩ := List.forall_mem_cons.1 hts
    obtain ⟨row, hrow, rest, hrest, rfl⟩ := mem_combinations_cons.1 hes
    obtain ⟨row', hrow', rest', hrest', rfl⟩ := mem_combinations_cons.1 hfs
    exact List.rel_append (akin_entries ht hrow hrow') (ih hts hrest hrest')

/-- Cell by cell the same for SQL. -/
def SameRow : List Cell → List Cell → Prop :=
  List.Forall₂ fun a b => Comparison.same a.value b.value = true

theorem project_eq_of_sameRow {p p' : PivotRow} (h : List.Forall₂ Akin p.entries p'.entries)
    {columns : List ColumnKey} (hsame : SameRow (p.project columns) (p'.project columns)) :
    p.project columns = p'.project columns := by
  induction columns with
  | nil => rfl
  | cons key columns ih =>
    unfold PivotRow.project at hsame ih ⊢
    rw [List.filterMap_cons, List.filterMap_cons] at hsame ⊢
    have hkey := PivotRow.rel_get?
      (R := fun a b => Comparison.same a.value b.value = true → a = b) h key
    generalize p.get? key = a, p'.get? key = b at hkey hsame ⊢
    cases hkey with
    | none => exact ih hsame
    | some hab =>
      obtain _ | ⟨hhead, htail⟩ := hsame
      exact congrArg₂ List.cons (hab hhead) (ih htail)

/-- One row of each class of alike ones. -/
structure Represents (all rows : List (List Cell)) : Prop where
  subset : rows ⊆ all
  covers : ∀ row ∈ all, ∃ shown ∈ rows, SameRow row shown
  apart : rows.Pairwise fun a b => ¬ SameRow a b

structure Database where
  tables : List StoredTable

namespace Database

structure WellFormed (db : Database) : Prop where
  distinct : DistinctNames (db.tables.map (·.table))
  wellFormed : ∀ t ∈ db.tables, t.WellFormed

def find? (db : Database) (name : Identifier) : Option StoredTable :=
  db.tables.find? (·.table.name == name)

/-- The rows of the join of the named tables. -/
def join (db : Database) (names : List Identifier) : List PivotRow :=
  (combinations (names.filterMap db.find?)).map PivotRow.ofList

def shown (db : Database) (q : Query) : List (List Cell) :=
  ((db.join (q.tables.map (·.table))).filter q.condition.holds).map (PivotRow.project q.columns)

/-- The rows answer the query, in whichever order. -/
def Answers (db : Database) (q : Query) (rows : Rows) : Prop :=
  if q.distinct then Represents (db.shown q) rows else rows.Perm (db.shown q)

variable {db : Database}

theorem WellFormed.find?_eq (h : db.WellFormed) {t : StoredTable} (ht : t ∈ db.tables) :
    db.find? t.table.name = some t :=
  (DistinctBy.map.1 h.distinct).find?_eq ht BEq.rfl

/-- The tables are found under their own names. -/
theorem WellFormed.filterMap_find? (h : db.WellFormed) {ts : List StoredTable}
    (hts : ts ⊆ db.tables) : (ts.map (·.table.name)).filterMap db.find? = ts := by
  induction ts with
  | nil => rfl
  | cons t ts ih =>
    obtain ⟨ht, hts⟩ := List.cons_subset.1 hts
    rw [List.map_cons, List.filterMap_cons_some (h.find?_eq ht), ih hts]

theorem WellFormed.distinctNames (h : db.WellFormed) {ts : List StoredTable}
    (hts : ts.Subperm db.tables) : DistinctNames (ts.map (·.table)) :=
  DistinctBy.map.2 ((DistinctBy.map.1 h.distinct).subperm hts)

theorem WellFormed.of_subperm (h : db.WellFormed) {ts : List StoredTable}
    (hts : ts.Subperm db.tables) : ∀ t ∈ ts, t.WellFormed :=
  fun t ht => h.wellFormed t (hts.subset ht)

theorem WellFormed.entries_of_mem_join (h : db.WellFormed) {ts : List StoredTable}
    (hts : ts.Subperm db.tables) {p : PivotRow} (hp : p ∈ db.join (ts.map (·.table.name))) :
    p.entries ∈ combinations ts := by
  rw [join, h.filterMap_find? hts.subset] at hp
  obtain ⟨es, hes, rfl⟩ := List.mem_map.1 hp
  rwa [PivotRow.entries_ofList
    (distinctBy_of_mem_combinations (h.of_subperm hts) (h.distinctNames hts) hes)]

theorem WellFormed.mem_join (h : db.WellFormed) {ts : List StoredTable}
    (hts : ts ⊆ db.tables) {p : PivotRow} (hp : p.entries ∈ combinations ts) :
    p ∈ db.join (ts.map (·.table.name)) := by
  rw [join, h.filterMap_find? hts]
  refine List.mem_map.2 ⟨p.entries, hp, ?_⟩
  exact PivotRow.eq_of_entries_eq (PivotRow.entries_ofList p.distinctBy_entries)

theorem mem_of_answers (h : db.WellFormed) {ts : List StoredTable} (hts : ts.Subperm db.tables)
    {q : Query} (hfrom : q.tables.map (·.table) = ts.map (·.table.name)) {pivot : PivotRow}
    (hpivot : pivot.entries ∈ combinations ts) (htrue : q.condition.holds pivot = true)
    {rows : Rows} (hrows : db.Answers q rows) : pivot.project q.columns ∈ rows := by
  have hjoin := h.mem_join hts.subset hpivot
  rw [← hfrom] at hjoin
  have hshown : pivot.project q.columns ∈ db.shown q :=
    List.mem_map_of_mem (List.mem_filter.2 ⟨hjoin, htrue⟩)
  unfold Answers at hrows
  split at hrows
  -- the row that stands for the class may come from another combination
  · obtain ⟨row, hrow, hsame⟩ := hrows.covers _ hshown
    obtain ⟨other, hother, rfl⟩ := List.mem_map.1 (hrows.subset hrow)
    have hentries := h.entries_of_mem_join hts (hfrom ▸ List.mem_of_mem_filter hother)
    rwa [project_eq_of_sameRow (akin_combinations (h.of_subperm hts) hpivot hentries) hsame]
  · exact hrows.mem_iff.2 hshown

end Database

end Reference

end PivotedQuery
