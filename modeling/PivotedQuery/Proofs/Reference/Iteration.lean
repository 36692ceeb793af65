import PivotedQuery.Proofs.Query.Pipeline
import PivotedQuery.Proofs.Reference.Database
import PivotedQuery.Session.Engine
/-!
Iterations over a database that answers queries by their meaning. Main statement: such an iteration
verifies its pivot row or, if a table is empty, may be skipped; it never reports a bug or a fault.
-/
namespace PivotedQuery.Reference

open Dialogue (Reaches reaches_pure reaches_call reaches_log)

/-- One row of the table, or none of an empty one. -/
def StoredTable.IsSample (t : StoredTable) (rows : Rows) : Prop :=
  (t.rows = [] ∧ rows = []) ∨ ∃ row ∈ t.rows, rows = [t.cells row]

def StoredTable.hasRows (t : StoredTable) : Bool := !t.rows.isEmpty

/-- The pivot row takes one row of each table that is used, and those are tables of the database. -/
structure Database.Holds (db : Database) (ts : List StoredTable) (c : Pivot.Choice) : Prop where
  subperm : ts.Subperm db.tables
  used_eq : c.used = ts.map (·.table)
  mem_combinations : c.pivot.entries ∈ combinations ts

/-- A query that is drawn over the choice and made true on its pivot row. -/
def SynthesizedFor (c : Pivot.Choice) (r : Query) : Prop :=
  ∃ hints maxDepth q, (Query.draw hints maxDepth c.used).Yields (.ok q) ∧
    q.rectified c.pivot = .ok r

/-- Answers by the database's contents: which row is the sample of a table, in which order rows come
and which of several alike ones is shown may differ from one request to the next. -/
structure Serves {σ : Type} (b : Backend σ) (name : String) (db : Database) : Prop where
  listTables : b.Replies (.listTables name) (· = .ok (db.tables.map (·.table.name)))
  listColumns : ∀ t ∈ db.tables,
    b.Replies (.listColumns name t.table.name) (· = .ok t.table.columns)
  listIndexes : ∀ t ∈ db.tables,
    b.Replies (.listIndexes name t.table.name) (· = .ok t.table.indexes)
  sample : ∀ t ∈ db.tables,
    b.Replies (.select (Pivot.rowSql t.table)) fun reply =>
      ∃ rows, reply = .ok rows ∧ t.IsSample rows
  select : ∀ ts c r, db.Holds ts c → SynthesizedFor c r →
    b.Replies (.select r.sql) fun reply => ∃ rows, reply = .ok rows ∧ db.Answers r rows

variable {σ : Type} {b : Backend σ} {name : String} {db : Database}

/-! The schema is read as it is. -/

theorem reaches_table (hb : Serves b name db) {t : StoredTable} (ht : t ∈ db.tables) :
    Reaches b (Probe.table name t.table.name) (· = .ok t.table) := by
  apply (reaches_call (hb.listColumns t ht)).bind
  rintro _ rfl
  apply (reaches_call (hb.listIndexes t ht)).bind
  rintro _ rfl
  exact reaches_pure rfl

theorem reaches_tables (hb : Serves b name db) {ts : List StoredTable} (hts : ts ⊆ db.tables) :
    Reaches b (Probe.tables name (ts.map (·.table.name))) (· = .ok (ts.map (·.table))) := by
  induction ts with
  | nil => exact reaches_pure rfl
  | cons t ts ih =>
    obtain ⟨ht, hts⟩ := List.cons_subset.1 hts
    apply (reaches_table hb ht).bind
    rintro _ rfl
    apply (ih hts).bind
    rintro _ rfl
    exact reaches_pure rfl

theorem reaches_refresh (hb : Serves b name db) (old : List Table) :
    Reaches b (Probe.refresh name old) fun r => r.1 = .ok (db.tables.map (·.table)) := by
  have hfetch : Reaches b (Probe.fetch name) (· = .ok (db.tables.map (·.table))) := by
    apply (reaches_call hb.listTables).bind
    rintro _ rfl
    exact reaches_tables hb (List.Subset.refl _)
  apply hfetch.bind
  rintro _ rfl
  exact (reaches_log b _).bind fun _ _ => reaches_pure rfl

/-! The pivot takes a row of every chosen table that has one. -/

theorem hasRows_of_mem_combinations {ts : List StoredTable} {es : List (ColumnKey × Cell)}
    (h : es ∈ combinations ts) {t : StoredTable} (ht : t ∈ ts) : t.hasRows = true := by
  induction ts generalizing es with
  | nil => cases ht
  | cons u ts ih =>
    obtain ⟨row, hrow, rest, hrest, -⟩ := mem_combinations_cons.1 h
    rcases List.mem_cons.1 ht with rfl | ht
    · simpa [StoredTable.hasRows] using List.ne_nil_of_mem hrow
    · exact ih hrest ht

theorem Database.Holds.keys_eq (hdb : db.WellFormed) {ts : List StoredTable} {c : Pivot.Choice}
    (h : db.Holds ts c) : c.pivot.keys = c.used.flatMap Table.keys := by
  rw [PivotRow.keys, map_fst_of_mem_combinations (hdb.of_subperm h.subperm) h.mem_combinations,
    h.used_eq]

theorem addRow_ok (hdb : db.WellFormed) {ts : List StoredTable} {t : StoredTable}
    (hts : (ts ++ [t]).Subperm db.tables) {p : PivotRow} (hp : p.entries ∈ combinations ts)
    {row : List Value} (hrow : row ∈ t.rows) :
    ∃ p', Pivot.addRow p t.table (t.cells row) = .ok p' ∧
      p'.entries ∈ combinations (ts ++ [t]) := by
  have hwell := hdb.of_subperm hts
  have hmem := append_mem_combinations hp (entries_mem_combinations hrow)
  have hdistinct := distinctBy_of_mem_combinations hwell (hdb.distinctNames hts) hmem
  obtain ⟨p', hp'⟩ := Pivot.addCells_ok hdistinct
  have hlength : (t.cells row).length = t.table.columns.length :=
    (hwell t (by simp)).length_cells hrow
  refine ⟨p', ?_, ?_⟩
  · rw [Pivot.addRow, if_neg (by simpa using hlength)]
    exact hp'
  · rwa [Pivot.entries_of_addCells hp']

theorem reaches_fetch (hdb : db.WellFormed) (hb : Serves b name db) {ts more : List StoredTable}
    {c : Pivot.Choice} (hc : db.Holds ts c) (hmore : (ts ++ more).Subperm db.tables) :
    Reaches b (Pivot.fetch c (more.map (·.table))) fun r =>
      ∃ c', r = .ok c' ∧ db.Holds (ts ++ more.filter StoredTable.hasRows) c' := by
  induction more generalizing ts c with
  | nil =>
    refine reaches_pure ⟨c, rfl, ?_⟩
    rwa [List.filter_nil, List.append_nil]
  | cons t more ih =>
    have ht : t ∈ db.tables := hmore.subset (by simp)
    apply (reaches_call (hb.sample t ht)).bind
    rintro _ ⟨_, rfl, ⟨hempty, rfl⟩ | ⟨row, hrow, rfl⟩⟩
    -- an empty table is left out
    · have hrest : (ts ++ more).Sublist (ts ++ t :: more) :=
        (List.sublist_cons_self t more).append_left ts
      apply (reaches_log b _).bind
      intro _ _
      rw [List.filter_cons_of_neg (by simp [StoredTable.hasRows, hempty])]
      exact ih hc (hrest.subperm.trans hmore)
    -- the table's keys are free, so its row goes in
    · have hnext : (ts ++ [t]).Subperm db.tables := by
        refine List.Subperm.trans (List.Sublist.subperm ?_) hmore
        exact (List.Sublist.refl ts).append ((List.nil_sublist more).cons_cons t)
      obtain ⟨p, hp, hmem⟩ := addRow_ok hdb hnext hc.mem_combinations hrow
      have hhas : t.hasRows = true := by
        simpa [StoredTable.hasRows] using List.ne_nil_of_mem hrow
      have hheld : db.Holds (ts ++ [t]) ⟨p, c.used ++ [t.table]⟩ :=
        ⟨hnext, by simp [hc.used_eq], hmem⟩
      simp only [hp]
      have := ih hheld (by simpa using hmore)
      simpa [List.filter_cons_of_pos hhas] using this

theorem ensures_choice (hdb : db.WellFormed) (hb : Serves b name db) (hne : db.tables ≠ []) :
    (Pivot.choose (db.tables.map (·.table))).Ensures fun r =>
      Reaches b r.2 fun result => ∃ c ts, result = .ok c ∧ db.Holds ts c ∧
        (ts = [] → ∃ t ∈ db.tables, t.rows = []) := by
  have hsome : db.tables.map (·.table) ≠ [] := by simpa using hne
  unfold Pivot.choose
  rw [if_neg (by simpa using hsome)]
  apply (Pivot.ensures_selection hsome).map
  intro s hs
  obtain ⟨hperm, hpos, -⟩ := hs
  -- the order drawn for the tables is one of the stored tables
  obtain ⟨us, hus, hdbus⟩ : Relation.Comp (· = List.map StoredTable.table ·) List.Perm
      s.tables db.tables := by
    rw [List.eq_map_comp_perm]
    exact hperm
  have hchosen : s.chosen = (us.take s.count).map (·.table) := by
    rw [Pivot.Selection.chosen, hus, List.map_take]
  have hsub : (us.take s.count).Subperm db.tables :=
    (List.take_sublist _ us).subperm.trans hdbus.subperm
  have hnone : db.Holds [] {} := ⟨List.nil_subperm, rfl, List.mem_singleton.2 rfl⟩
  rw [hchosen]
  apply (reaches_fetch hdb hb hnone hsub).mono
  rintro _ ⟨c, rfl, hc⟩
  refine ⟨c, _, rfl, hc, fun hempty => ?_⟩
  obtain ⟨t, ht⟩ : ∃ t, t ∈ us.take s.count := by
    refine List.exists_mem_of_length_pos ?_
    have hlength := List.length_pos_iff.2 hne
    rw [List.length_take, hdbus.length_eq]
    omega
  refine ⟨t, hsub.subset ht, ?_⟩
  have hhas := List.filter_eq_nil_iff.1 hempty t ht
  simpa [StoredTable.hasRows] using hhas

/-! The query returns the pivot row. -/

variable {ts : List StoredTable} {c : Pivot.Choice}

theorem tables_of_synthesized (hc : db.Holds ts c) {r : Query} (hr : SynthesizedFor c r) :
    r.tables.map (·.table) = ts.map (·.table.name) := by
  obtain ⟨hints, maxDepth, q, ⟨s, s', hdraw⟩, hq⟩ := hr
  rw [Query.columns_of_rectified hq, (Query.drawnOver_of_draw hdraw).tables_eq, hc.used_eq,
    List.map_map]
  rfl

theorem holds_of_synthesized {r : Query} (hr : SynthesizedFor c r) :
    r.condition.holds c.pivot = true := by
  obtain ⟨_, _, _, _, hq⟩ := hr
  exact Predicate.holds_of_eval (Query.eval_of_rectified hq)

theorem project_mem_of_answers (hdb : db.WellFormed) (hc : db.Holds ts c) {r : Query}
    (hr : SynthesizedFor c r) {rows : Rows} (hrows : db.Answers r rows) :
    c.pivot.project r.columns ∈ rows :=
  Database.mem_of_answers hdb hc.subperm (tables_of_synthesized hc hr) hc.mem_combinations
    (holds_of_synthesized hr) hrows

theorem columns_held_of_synthesized (hdb : db.WellFormed) (hc : db.Holds ts c) {r : Query}
    (hr : SynthesizedFor c r) : ∀ key ∈ r.columns, c.pivot.contains key = true := by
  obtain ⟨hints, maxDepth, q, ⟨s, s', hdraw⟩, hq⟩ := hr
  rw [Query.columns_of_rectified hq]
  exact (Query.drawnOver_of_draw hdraw).columns_held (hc.keys_eq hdb)

theorem ensures_synthesize (hdb : db.WellFormed) (hc : db.Holds ts c) (hts : ts ≠ [])
    (hints : Bool) (maxDepth : Nat) :
    ((Synthesizer.pivoted hints).synthesize maxDepth c.used c.pivot ()).Ensures fun r =>
      ∃ q, r.1 = .ok ⟨q.sql, q.columns⟩ ∧ SynthesizedFor c q := by
  have hcolumns : c.used.flatMap Table.typedKeys ≠ [] := by
    obtain ⟨t, ts, rfl⟩ := List.exists_cons_of_ne_nil hts
    have hne := (hdb.of_subperm hc.subperm t List.mem_cons_self).columns_ne_nil
    simp [hc.used_eq, Table.typedKeys, hne]
  have hdraw := Query.ensures_draw hints maxDepth hcolumns
  apply hdraw.yields.bind
  intro a ha
  obtain ⟨q, rfl, hdrawn⟩ := hdraw.of_yields ha
  have hnames : DistinctNames c.used := by
    rw [hc.used_eq]
    exact hdb.distinctNames hc.subperm
  obtain ⟨r, hr, hrender⟩ := hdrawn.render_ok hnames (hc.keys_eq hdb)
  exact Draw.ensures_pure ⟨r, hrender, hints, maxDepth, q, ha, hr⟩

theorem reaches_draw {G S α : Type} (e : Engine G S) {d : Draw α} {post : α → Prop}
    (hd : d.Ensures post) : Reaches b (e.draw d) fun r => post r.1 := by
  intro w
  obtain ⟨a, s', ha, hpost⟩ := hd e.bench.source
  exact ⟨_, w, by rw [Engine.draw, ha]; rfl, hpost⟩

theorem reaches_query (hdb : db.WellFormed) (hb : Serves b name db) (hc : db.Holds ts c)
    (hts : ts ≠ []) (hints : Bool) (e : Engine Generator Unit) :
    Reaches b (e.query (Tools.random hints) c) fun r => r.1 = .ok .verified := by
  apply (reaches_draw e (ensures_synthesize hdb hc hts hints _)).bind
  rintro ⟨⟨_, _⟩, e⟩ ⟨q, rfl, hq⟩
  apply (reaches_log b _).bind
  intro _ _
  have hreplies : b.Replies (.select q.sql) fun reply =>
      ∃ rows, reply = .ok rows ∧ c.pivot.project q.columns ∈ rows := by
    intro w
    obtain ⟨_, hreply, rows, rfl, hrows⟩ := hb.select ts c q hc hq w
    exact ⟨_, hreply, rows, rfl, project_mem_of_answers hdb hc hq hrows⟩
  apply (Containment.reaches_check (columns_held_of_synthesized hdb hc hq) hreplies).bind
  rintro _ rfl
  exact reaches_pure rfl

/-- Whatever rows and orders the database picks and however the choices fall, an iteration ends with
a verified pivot row, or is skipped because a table is empty. -/
theorem iteration_raises_no_alarm {σ : Type} {b : Backend σ} {db : Database} (hdb : db.WellFormed)
    (hne : db.tables ≠ []) (hints : Bool) (e : Engine Generator Unit)
    (hb : Serves b e.profile.database db) (w : World σ) :
    ∃ i e' w', (e.iterate (Tools.random hints)).run b w = (some (.ok i, e'), w') ∧
      (i = .skipped → ∃ t ∈ db.tables, t.rows = []) := by
  have hreach : Reaches b (e.iterate (Tools.random hints)) fun r =>
      ∃ i, r.1 = .ok i ∧ (i = .skipped → ∃ t ∈ db.tables, t.rows = []) := by
    apply (reaches_refresh hb e.snapshot).bind
    rintro ⟨_, snapshot⟩ rfl
    apply (reaches_draw _ (ensures_choice hdb hb hne)).bind
    rintro ⟨⟨_, choice⟩, e⟩ hchoice
    apply hchoice.bind
    rintro _ ⟨c, ts, rfl, hc, hskip⟩
    dsimp only
    split
    case isTrue hused =>
      refine (reaches_log b _).bind fun _ _ => reaches_pure ⟨.skipped, rfl, fun _ => hskip ?_⟩
      simpa [hc.used_eq] using hused
    case isFalse hused =>
      have hts : ts ≠ [] := by simpa [hc.used_eq] using hused
      exact (reaches_query hdb hb hc hts hints e).mono fun r hr => ⟨.verified, hr, nofun⟩
  obtain ⟨⟨_, e'⟩, w', hrun, i, rfl, hi⟩ := hreach w
  exact ⟨i, e', w', hrun, hi⟩

/-! A database with a row that occurs twice and a table without rows. -/

def twinTable : StoredTable where
  table := ⟨⟨"t"⟩, [⟨⟨"a"⟩, "INTEGER", true⟩], []⟩
  rows := [[.integer 7], [.integer 7]]

def emptyTable : StoredTable := ⟨⟨⟨"U"⟩, [⟨⟨"a"⟩, "", true⟩], []⟩, []⟩

def twins : Database := ⟨[twinTable, emptyTable]⟩

def twinKey : ColumnKey := ⟨⟨"t"⟩, ⟨"a"⟩⟩

def twinCell : Cell := ⟨.integer 7, ⟨"INTEGER"⟩⟩

/-- The rows of a retrieval, told apart by its first words. -/
def twinRows (sql : String) : Rows :=
  if sql = Pivot.rowSql emptyTable.table then []
  else if "SELECT \"".toList.isPrefixOf sql.toList then [[twinCell], [twinCell]]
  else [[twinCell]]

def twinBackend : Backend Unit where
  answer _
    | .listTables _ => (⟨some (.ok [⟨"t"⟩, ⟨"U"⟩]), [], []⟩, ())
    | .listColumns _ name =>
      (⟨some (.ok (if name = ⟨"t"⟩ then twinTable else emptyTable).table.columns), [], []⟩, ())
    | .listIndexes _ _ => (⟨some (.ok []), [], []⟩, ())
    | .select sql => (⟨some (.ok (twinRows sql)), [], []⟩, ())
    | _ => (⟨none, [], []⟩, ())

theorem combinations_twin :
    combinations [twinTable] = [[(twinKey, twinCell)], [(twinKey, twinCell)]] := by
  decide +kernel

theorem wellFormed_twins : twins.WellFormed := by
  have hyields : (Draw.value .integer).Yields (.integer 7) :=
    ⟨.cycle #[2300000000], _, rfl⟩
  have haffinity : Affinity.ofDeclaredType "INTEGER" = .integer := by decide +kernel
  have hseven : Column.Stores ⟨⟨"a"⟩, "INTEGER", true⟩ (.integer 7) := by
    right
    rw [Column.affinity, haffinity]
    exact hyields
  constructor
  · simp [DistinctNames, DistinctBy, twins, twinTable, emptyTable, Identifier.beq_eq]
  · intro t ht
    rcases List.mem_pair.1 ht with rfl | rfl
    · refine ⟨by simp [twinTable], List.pairwise_singleton _ _, fun row hrow => ?_⟩
      simp only [twinTable, List.mem_cons, List.not_mem_nil, or_false, or_self] at hrow
      rw [hrow]
      exact .cons hseven .nil
    · refine ⟨by simp [emptyTable], List.pairwise_singleton _ _, fun row hrow => ?_⟩
      exact absurd hrow List.not_mem_nil

/-- A pivot row has no room for a table without rows. -/
theorem eq_nil_or_eq_twin {ts : List StoredTable} {c : Pivot.Choice} (hc : twins.Holds ts c) :
    ts = [] ∨ ts = [twinTable] := by
  have hall : ts.filter StoredTable.hasRows = ts :=
    List.filter_eq_self.2 fun t ht => hasRows_of_mem_combinations hc.mem_combinations ht
  have hsub : (ts.filter StoredTable.hasRows).Subperm [twinTable] := hc.subperm.filter _
  rw [hall] at hsub
  exact List.subperm_singleton_iff.1 hsub

/-- The first words of a query that shows the only column. -/
theorem twinRows_of_columns {r : Query} (h : r.columns = [twinKey]) :
    twinRows r.sql = if r.distinct then [[twinCell]] else [[twinCell], [twinCell]] := by
  obtain ⟨rest, hsql⟩ : ∃ rest, r.sql.toList = "SELECT ".toList ++
      ((if r.distinct then "DISTINCT " else "").toList ++ '\x22' :: rest) := by
    simp [Query.sql, h, Query.commaList, ColumnKey.qualified, Identifier.quoted, Text.enclose]
  have hsample : r.sql ≠ Pivot.rowSql emptyTable.table := by
    intro heq
    -- the eighth character tells them apart
    have hchar := congrArg (fun cs : List Char => cs[7]?) hsql
    rw [heq] at hchar
    cases hdistinct : r.distinct <;> rw [hdistinct] at hchar <;> cases hchar
  unfold twinRows
  rw [if_neg hsample, hsql]
  cases r.distinct with
  | true => rfl
  | false => rfl

theorem answers_twins {ts : List StoredTable} {c : Pivot.Choice} {r : Query}
    (hc : twins.Holds ts c) (hr : SynthesizedFor c r) : twins.Answers r (twinRows r.sql) := by
  have htrue := holds_of_synthesized hr
  have hfrom := tables_of_synthesized hc hr
  have hkey : ts = [twinTable] ∧ r.columns = [twinKey] := by
    obtain ⟨hints, maxDepth, q, ⟨s, s', hdraw⟩, hq⟩ := hr
    have hdrawn := Query.drawnOver_of_draw hdraw
    have hcolumns := hdrawn.columns_subperm
    rw [hc.used_eq] at hcolumns
    rcases eq_nil_or_eq_twin hc with rfl | rfl
    · exact absurd (List.subperm_nil.1 hcolumns) hdrawn.columns_ne_nil
    · rw [Query.columns_of_rectified hq]
      exact ⟨rfl, (List.subperm_singleton_iff.1 hcolumns).resolve_left hdrawn.columns_ne_nil⟩
  obtain ⟨rfl, hkey⟩ := hkey
  have hpivot : c.pivot.entries = [(twinKey, twinCell)] := by
    simpa [combinations_twin] using hc.mem_combinations
  have hofList : PivotRow.ofList [(twinKey, twinCell)] = c.pivot := by
    rw [← hpivot]
    exact PivotRow.eq_of_entries_eq (PivotRow.entries_ofList c.pivot.distinctBy_entries)
  have hcell : c.pivot.get? twinKey = some twinCell :=
    PivotRow.get?_of_mem (e := (twinKey, twinCell)) (by rw [hpivot]; exact List.mem_cons_self)
  have hshown : twins.shown r = [[twinCell], [twinCell]] := by
    have hsub : [twinTable] ⊆ twins.tables := by simp [twins]
    rw [Database.shown, hfrom, Database.join, wellFormed_twins.filterMap_find? hsub,
      combinations_twin]
    simp [hofList, htrue, PivotRow.project, hkey, hcell]
  unfold Database.Answers
  rw [hshown, twinRows_of_columns hkey]
  split
  · refine ⟨by simp, fun row hrow => ⟨[twinCell], by simp, ?_⟩, List.pairwise_singleton _ _⟩
    simp only [List.mem_cons, List.not_mem_nil, or_false, or_self] at hrow
    rw [hrow]
    exact .cons rfl .nil
  · exact List.Perm.refl _

theorem serves_twins (name : String) : Serves twinBackend name twins where
  listTables _ := ⟨_, rfl, rfl⟩
  listColumns t ht _ := by
    rcases List.mem_pair.1 ht with rfl | rfl
    · exact ⟨_, rfl, rfl⟩
    · exact ⟨_, rfl, rfl⟩
  listIndexes t ht _ := by
    rcases List.mem_pair.1 ht with rfl | rfl
    · exact ⟨_, rfl, rfl⟩
    · exact ⟨_, rfl, rfl⟩
  sample t ht _ := by
    rcases List.mem_pair.1 ht with rfl | rfl
    · refine ⟨_, rfl, _, rfl, .inr ⟨[.integer 7], by simp [twinTable], ?_⟩⟩
      decide +kernel
    · refine ⟨_, rfl, _, rfl, .inl ⟨rfl, ?_⟩⟩
      simp [twinRows]
  select _ _ _ hc hr _ := ⟨_, rfl, _, rfl, answers_twins hc hr⟩

def twinEngine : Engine Generator Unit where
  bench := ⟨{}, .cycle #[7, 3000000000]⟩
  synthesizer := ()
  profile := {}

theorem iteration_raises_no_alarm_twins :
    twins.WellFormed ∧ twins.tables ≠ [] ∧ Serves twinBackend "pqs" twins ∧
    ∃ i e' w', (twinEngine.iterate (Tools.random true)).run twinBackend ⟨(), [], #[], #[]⟩ =
      (some (.ok i, e'), w') := by
  have hne : twins.tables ≠ [] := List.cons_ne_nil _ _
  obtain ⟨i, e', w', hrun, -⟩ := iteration_raises_no_alarm wellFormed_twins hne true twinEngine
    (serves_twins "pqs") ⟨(), [], #[], #[]⟩
  exact ⟨wellFormed_twins, hne, serves_twins "pqs", i, e', w', hrun⟩

end PivotedQuery.Reference
