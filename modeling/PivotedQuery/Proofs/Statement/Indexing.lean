import PivotedQuery.Proofs.Statement.Effects
/-!
Indexes of the tables that were read. Main statement: there is no index just if the options admit
no table with a column, and then nothing is drawn and no number is given away; else an admitted
table gets an index of up to three of its columns, which is not unique where rows may be there
already.
-/
namespace PivotedQuery.Generator

open Draw (run_bind)

variable {options : IndexOptions} {b : Workbench Generator}

theorem candidates_eq_nil_iff {g : Generator} :
    g.candidates options = [] ↔ ∀ t ∈ g.tables, ¬options.Admits t := by
  rw [List.eq_nil_iff_forall_not_mem]
  refine forall_congr' fun t => ?_
  rw [mem_candidates_iff, not_and]

theorem createIndex_of_none (h : ∀ t ∈ b.maker.tables, ¬options.Admits t) :
    createIndex options b = (.ok (.error (.noTable "create index")), b) := by
  have hnone : (b.maker.candidates options).isEmpty = true :=
    List.isEmpty_iff.2 (candidates_eq_nil_iff.2 h)
  refine (run_bind (show Work.maker b = (.ok b.maker, b) from rfl)).trans ?_
  rw [if_pos hnone]
  rfl

/-- An index of a table that the generator has read, with the number that it holds, and its text. -/
structure IndexOf (options : IndexOptions) (g : Generator) (t : Table) (columns : List IndexColumn)
    (unique : Bool) (statement : Statement) : Prop where
  mem_tables : t ∈ g.tables
  admits : options.Admits t
  chosen : IndexColumn.ChosenFrom t.columns columns
  online_of_unique : unique = true → options.online = false
  statement_eq : statement =
    .createIndex (.numbered ("idx_" ++ t.name.name) g.nextId) t.name columns unique
  sql_eq : statement.sql = "CREATE " ++ (if unique then "UNIQUE " else "") ++ "INDEX " ++
    (Identifier.numbered ("idx_" ++ t.name.name) g.nextId).quoted ++ " ON " ++ t.name.quoted ++
    " (" ++ ", ".intercalate (columns.map fun c =>
      c.name.quoted ++ if c.descending then " DESC" else " ASC") ++ ")"

theorem createIndex_of_some
    (hp : Draw.isProbability b.maker.options.uniqueIndexProbability = true)
    (h : ∃ t ∈ b.maker.tables, options.Admits t) : ∃ statement b' t columns unique,
      createIndex options b = (.ok (.ok statement), b') ∧ b'.maker = b.maker.next ∧
        IndexOf options b.maker t columns unique statement := by
  have hne : b.maker.candidates options ≠ [] := by
    rw [Ne, candidates_eq_nil_iff]
    push Not
    exact h
  obtain ⟨t, s₁, hpick, ht⟩ := Draw.ensures_pick hne b.source
  obtain ⟨hmem, hadmits⟩ := mem_candidates_iff.1 ht
  obtain ⟨columns, s₂, hcolumns, hchosen⟩ := ensures_indexColumns hadmits.1 s₁
  obtain ⟨unique, s₃, hunique, honline⟩ := ensures_indexUnique hp options s₂
  have hsome : ¬(b.maker.candidates options).isEmpty = true := by simpa using hne
  refine ⟨_, { maker := b.maker.next, source := s₃ }, t, columns, unique, ?_, rfl,
    hmem, hadmits, hchosen, honline, rfl, rfl⟩
  refine (run_bind (show Work.maker b = (.ok b.maker, b) from rfl)).trans ?_
  rw [if_neg hsome]
  refine (run_bind (Work.run_draw hpick)).trans ?_
  refine (run_bind (Work.run_draw (b := { b with source := s₁ }) hcolumns)).trans ?_
  refine (run_bind (Work.run_draw (b := { b with source := s₂ }) hunique)).trans ?_
  exact run_bind (run_takeId { b with source := s₃ })

/-- Whether there is an index is up to the tables and the options alone. -/
theorem index_respects_options (options : IndexOptions)
    (hp : Draw.isProbability b.maker.options.uniqueIndexProbability = true) :
    ((∃ b', createIndex options b = (.ok (.error (.noTable "create index")), b')) ↔
      ∀ t ∈ b.maker.tables, ¬options.Admits t) ∧
    (∀ e b', createIndex options b = (.ok (.error e), b') →
      e = .noTable "create index" ∧ b' = b) ∧
    ((∃ t ∈ b.maker.tables, options.Admits t) → ∃ statement b' t columns unique,
      createIndex options b = (.ok (.ok statement), b') ∧ b'.maker = b.maker.next ∧
        IndexOf options b.maker t columns unique statement) := by
  have hfails {e : GenerationError} {b' : Workbench Generator}
      (h : createIndex options b = (.ok (.error e), b')) :
      ∀ t ∈ b.maker.tables, ¬options.Admits t := by
    intro t ht hadmits
    obtain ⟨statement, b'', -, -, -, hrun, -⟩ := createIndex_of_some hp ⟨t, ht, hadmits⟩
    rw [h] at hrun
    cases hrun
  refine ⟨⟨fun ⟨b', h⟩ => hfails h, fun h => ⟨b, createIndex_of_none h⟩⟩, fun e b' h => ?_,
    createIndex_of_some hp⟩
  have hrun := createIndex_of_none (hfails h)
  rw [h] at hrun
  cases hrun
  exact ⟨rfl, rfl⟩

/-- A table of each kind: ruled out by its name, admitted, and without a column. -/
def threeTables : Generator where
  tables := [⟨⟨"a"⟩, [⟨⟨"x"⟩, "TEXT", true⟩], []⟩,
    ⟨⟨"B"⟩, [⟨⟨"y"⟩, "TEXT", true⟩, ⟨⟨"z"⟩, "TEXT", true⟩], []⟩, ⟨⟨"c"⟩, [], []⟩]
  nextId := 7

theorem index_respects_options_online :
    let options : IndexOptions := ⟨true, [⟨"b"⟩, ⟨"C"⟩]⟩
    let source := Source.cycle #[7, 3000000000]
    Draw.isProbability threeTables.options.uniqueIndexProbability = true ∧
    ∃ b' columns, createIndex options ⟨threeTables, source⟩ =
        (.ok (.ok (.createIndex ⟨"idx_B_7"⟩ ⟨"B"⟩ columns false)), b') ∧
      IndexColumn.ChosenFrom [⟨⟨"y"⟩, "TEXT", true⟩, ⟨⟨"z"⟩, "TEXT", true⟩] columns := by
  intro options source
  have hadmits : ∃ t ∈ threeTables.tables, options.Admits t :=
    ⟨_, .tail _ (.head _), by simp, .inr ⟨⟨"b"⟩, by simp [options], by decide +kernel⟩⟩
  have hruledOut : ∀ name ∈ options.tables, name.folded ≠ Identifier.folded ⟨"a"⟩ := by
    decide +kernel
  obtain ⟨statement, b', t, columns, unique, hrun, -, hindex⟩ := (index_respects_options
    (b := ⟨threeTables, source⟩) options isProbability_constants.2).2.2 hadmits
  obtain ⟨hne, hnames⟩ := hindex.admits
  cases unique with
  | true => cases hindex.online_of_unique rfl
  | false =>
    rcases hindex.mem_tables with _ | ⟨_, _ | ⟨_, _ | ⟨_, hmem⟩⟩⟩
    · obtain hnone | ⟨name, hname, hfolded⟩ := hnames
      · cases hnone
      · exact absurd hfolded (hruledOut name hname)
    · refine ⟨isProbability_constants.2, b', columns, ?_, hindex.chosen⟩
      have hname : Identifier.numbered ("idx_" ++ "B") 7 = ⟨"idx_B_7"⟩ := by decide +kernel
      rw [hrun, hindex.statement_eq, ← hname]
      rfl
    · exact absurd rfl hne
    · cases hmem

end PivotedQuery.Generator
