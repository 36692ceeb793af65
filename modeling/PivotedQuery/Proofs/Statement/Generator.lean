import PivotedQuery.Population.Basic
import PivotedQuery.Proofs.Random.Value
/-!
Making statements without an impossible draw. Main statement: a generator whose probabilities are
between zero and one makes its statements from every source and for tables of every shape, or says
why there is none; only numbers of columns or rows for which there is no buffer keep it from that.
-/
namespace PivotedQuery

variable {G α β : Type}

theorem Draw.ensures_mapM_trivial {f : α → Draw β} (xs : List α)
    (h : ∀ x, (f x).Ensures fun _ => True) : (xs.mapM f).Ensures fun _ => True := by
  have hunit (x : α) : (f x).Ensures fun _ => () = () := (h x).mono fun _ _ => rfl
  exact (ensures_mapM xs hunit).mono fun _ _ => trivial

/-! Work at a bench. -/

namespace Work

/-- From every bench with a good maker the result is granted, and the maker is good afterwards. -/
def Succeeds (good : G → Prop) (excuse : Prop) (w : Work G α) (post : α → Prop) : Prop :=
  ∀ b, good b.maker → good (w b).2.maker ∧ Draw.Granted excuse post (w b).1

variable {good : G → Prop} {excuse : Prop} {post : α → Prop} {w : Work G α}

theorem succeeds_pure {a : α} (h : post a) : Succeeds good excuse (pure a : Work G α) post :=
  fun _ hb => ⟨hb, .ok h⟩

theorem Succeeds.bind {post : β → Prop} {mid : α → Prop} {f : α → Work G β}
    (hw : w.Succeeds good excuse mid) (hf : ∀ a, mid a → (f a).Succeeds good excuse post) :
    (w >>= f).Succeeds good excuse post := by
  intro b hb
  obtain ⟨hgood, hgranted⟩ := hw b hb
  cases hrun : w b with
  | mk r b₁ =>
    rw [hrun] at hgood hgranted
    cases hgranted with
    | ok hmid =>
      rw [Draw.run_bind hrun]
      exact hf _ hmid b₁ hgood
    | overflow h =>
      rw [Draw.run_bind_error hrun]
      exact ⟨hgood, .overflow h⟩

theorem draw_eq (d : Draw α) (b : Workbench G) :
    draw d b = ((d b.source).1, { b with source := (d b.source).2 }) := rfl

theorem run_draw {d : Draw α} {b : Workbench G} {r : Except DrawError α} {s : Source}
    (h : d b.source = (r, s)) : draw d b = (r, { b with source := s }) := by
  rw [draw_eq, h]

theorem run_draw_of_ok {d : Draw α} {b b' : Workbench G} {a : α} (h : draw d b = (.ok a, b')) :
    d b.source = (.ok a, b'.source) := by
  rw [draw_eq] at h
  obtain ⟨hresult, rfl⟩ := Prod.mk.inj h
  exact Prod.ext hresult rfl

/-- A draw leaves the maker alone. -/
theorem succeeds_draw_of_granted {d : Draw α} (hd : ∀ s, Draw.Granted excuse post (d s).1) :
    (draw d).Succeeds good excuse post := fun b hb => ⟨hb, hd b.source⟩

theorem succeeds_draw {d : Draw α} (hd : d.Ensures post) : (draw d).Succeeds good excuse post := by
  refine succeeds_draw_of_granted fun s => ?_
  obtain ⟨a, s', ha, hpost⟩ := hd s
  rw [ha]
  exact .ok hpost

theorem succeeds_maker : (maker : Work G G).Succeeds good excuse good :=
  fun _ hb => ⟨hb, .ok hb⟩

theorem succeeds_setMaker {g : G} (hg : good g) :
    (setMaker g).Succeeds good excuse fun _ => True := fun _ _ => ⟨hg, .ok trivial⟩

end Work

/-! What the statements are made of. -/

/-- The table has a column, and its name is among those to choose from, if there are any. -/
def IndexOptions.Admits (o : IndexOptions) (t : Table) : Prop :=
  t.columns ≠ [] ∧ (o.tables = [] ∨ ∃ name ∈ o.tables, name.folded = t.name.folded)

/-- One to three columns of a table, which stand at different places of it. -/
structure IndexColumn.ChosenFrom (columns : List Column) (chosen : List IndexColumn) : Prop where
  length_pos : 1 ≤ chosen.length
  length_le : chosen.length ≤ min 3 columns.length
  positions : ∃ positions : List Nat, positions.Nodup ∧
    chosen.map (fun c => some c.name) = positions.map fun i => columns[i]?.map (·.name)

/-- NULL where it may stand, and else a value that is drawn for the column. -/
def Column.Receives (c : Column) (v : Value) : Prop :=
  v = .null ∧ c.nullable = true ∨ v.Drawn c.affinity

/-! The statements of a generator. -/

/-- All four are between zero and one. -/
structure GeneratorOptions.Sound (o : GeneratorOptions) : Prop where
  null : Draw.isProbability o.nullProbability = true
  notNull : Draw.isProbability o.notNullProbability = true
  primaryKey : Draw.isProbability o.primaryKeyProbability = true
  uniqueIndex : Draw.isProbability o.uniqueIndexProbability = true

theorem isProbability_constants : Draw.isProbability (.ofRatio false 1 10) = true ∧
    Draw.isProbability (.ofRatio false 2 10) = true := by
  decide +kernel

/-- Only the probability of NULLs can be set; the others are constants. -/
theorem PopulationLimits.sound_generatorOptions {l : PopulationLimits}
    (h : Draw.isProbability l.nullProbability = true) : l.generatorOptions.Sound where
  null := h
  notNull := isProbability_constants.2
  primaryKey := isProbability_constants.1
  uniqueIndex := isProbability_constants.2

/-! Buffers for what is drawn. -/

theorem Draw.maxCapacity_eq : maxCapacity = 2 ^ 63 - 1 := by decide +kernel

theorem Generator.columnBytes_le_iff {count : Nat} :
    columnBytes count ≤ Draw.maxCapacity ↔ count ≤ (2 ^ 63 - 1) / 80 := by
  unfold columnBytes
  rw [Draw.maxCapacity_eq]
  omega

theorem Generator.separatorBytes_le_iff {count : Nat} :
    separatorBytes count ≤ Draw.maxCapacity ↔ count ≤ 2 ^ 62 := by
  unfold separatorBytes
  rw [Draw.maxCapacity_eq]
  omega

/-- There are buffers for the most columns and for the most rows that may be drawn. -/
structure GeneratorOptions.Allocable (o : GeneratorOptions) : Prop where
  columns : o.maxColumns ≤ (2 ^ 63 - 1) / 80
  rows : o.maxRowsPerInsert ≤ 2 ^ 62

namespace Generator

open Draw (Granted maxCapacity ensures_pure ensures_pick ensures_chance ensures_size
  ensures_mapM_trivial run_bind run_bind_error run_reserve_of_le run_reserve_of_lt)
open Work (Succeeds succeeds_pure succeeds_draw succeeds_draw_of_granted succeeds_maker
  succeeds_setMaker)

/-- The tables that it has read and the numbers that it has given away are of no concern. -/
def Sound (g : Generator) : Prop := g.options.Sound

/-- No statement changes the options. -/
def Has (options : GeneratorOptions) (g : Generator) : Prop := g.options = options

variable {options : GeneratorOptions} {excuse : Prop}

theorem takeId_succeeds : takeId.Succeeds (Has options) excuse fun _ => True := by
  apply succeeds_maker.bind
  intro g hg
  have hnext : Has options { g with nextId := g.nextId + 1 } := hg
  exact (succeeds_setMaker hnext).bind fun _ _ => succeeds_pure trivial

theorem tableName_succeeds : tableName.Succeeds (Has options) excuse fun _ => True := by
  apply (succeeds_draw (ensures_pick (by decide))).bind
  intro adjective _
  apply (succeeds_draw (ensures_pick (by decide))).bind
  intro noun _
  apply takeId_succeeds.bind
  exact fun _ _ => succeeds_pure trivial

theorem ensures_column (h : options.Sound) (i : Nat) :
    (column options.notNullProbability i).Ensures fun _ => True := by
  apply (ensures_pick (by decide)).bind
  intro noun _
  apply (ensures_pick (by decide)).bind
  intro declaredType _
  exact (ensures_chance h.notNull).map fun _ _ => trivial

theorem granted_columns (h : options.Sound) (s : Source) :
    Granted (¬ options.Allocable) (fun _ => True) (columns options s).1 := by
  obtain ⟨count, s₁, hcount, -, hle⟩ := ensures_size (Nat.le_max_right options.maxColumns 1) s
  unfold columns
  rw [run_bind hcount]
  obtain hlt | hfits := Nat.lt_or_ge maxCapacity (columnBytes count)
  · rw [run_bind_error (run_reserve_of_lt hlt s₁)]
    refine .overflow fun hallocable => Nat.not_lt.2 (columnBytes_le_iff.2 ?_) hlt
    have := hallocable.columns
    omega
  · obtain ⟨cs, s₂, hcs, -⟩ := ensures_mapM_trivial (List.range count) (ensures_column h) s₁
    rw [run_bind (run_reserve_of_le hfits s₁), hcs]
    exact .ok trivial

/-- Only too many columns for one buffer keep a table from being made. -/
theorem createTable_succeeds (h : options.Sound) :
    createTable.Succeeds (Has options) (¬ options.Allocable) fun _ => True := by
  apply tableName_succeeds.bind
  intro name _
  apply succeeds_maker.bind
  rintro g rfl
  apply (succeeds_draw_of_granted (granted_columns h)).bind
  intro columns _
  apply (succeeds_draw (ensures_chance h.primaryKey)).bind
  exact fun _ _ => succeeds_pure trivial

theorem ensures_indexColumns {columns : List Column} (h : columns ≠ []) :
    (indexColumns columns).Ensures (IndexColumn.ChosenFrom columns) := by
  apply (Draw.ensures_shuffle columns).bind
  intro shuffled hperm
  -- the size is drawn from one on, so the table has to have a column
  have hlength : 1 ≤ min shuffled.length 3 := by
    have := List.length_pos_iff.2 h
    rw [hperm.length_eq]
    omega
  apply (ensures_size hlength).bind
  rintro count ⟨hpos, hle⟩
  have hcolumn (c : Column) : (indexColumn c).Ensures fun i => i.name = c.name :=
    (ensures_chance (by decide +kernel)).map fun _ _ => rfl
  apply (Draw.ensures_mapM _ hcolumn).mono
  intro chosen hnames
  have hcount : chosen.length = count := by
    have := congrArg List.length hnames
    rw [List.length_map, List.length_map, List.length_take] at this
    omega
  obtain ⟨positions, hnodup, hpositions⟩ := (Draw.samples_of_perm hperm).take count
  refine ⟨by omega, by rw [← hperm.length_eq]; omega, positions, hnodup, ?_⟩
  calc chosen.map (fun c => some c.name) = ((chosen.map (·.name)).map some) := by
        rw [List.map_map]; rfl
    _ = ((shuffled.take count).map some).map (Option.map (·.name)) := by
        rw [hnames, List.map_map, List.map_map]; rfl
    _ = positions.map fun i => columns[i]?.map (·.name) := by
        rw [hpositions, List.map_map]; rfl

theorem ensures_indexUnique {g : Generator}
    (h : Draw.isProbability g.options.uniqueIndexProbability = true) (options : IndexOptions) :
    (g.indexUnique options).Ensures fun unique => unique = true → options.online = false := by
  unfold indexUnique
  split
  case isTrue => exact ensures_pure nofun
  case isFalse honline => exact (ensures_chance h).mono fun _ _ _ => by simpa using honline

theorem mem_candidates_iff {g : Generator} {options : IndexOptions} {t : Table} :
    t ∈ g.candidates options ↔ t ∈ g.tables ∧ options.Admits t := by
  rw [candidates, List.mem_filter, Bool.and_eq_true, Bool.or_eq_true, Bool.not_eq_true',
    List.isEmpty_eq_false_iff, List.isEmpty_iff, List.contains_iff_exists_mem_beq]
  simp only [IndexOptions.Admits, Identifier.beq_iff, eq_comm (a := t.name.folded)]

theorem createIndex_succeeds (h : options.Sound) (restrictions : IndexOptions) :
    (createIndex restrictions).Succeeds (Has options) excuse fun _ => True := by
  apply succeeds_maker.bind
  rintro g rfl
  dsimp only
  split
  · exact succeeds_pure trivial
  case isFalse hcandidates =>
    apply (succeeds_draw (ensures_pick (by simpa using hcandidates))).bind
    intro table htable
    apply (succeeds_draw (ensures_indexColumns (mem_candidates_iff.1 htable).2.1)).bind
    intro columns _
    apply (succeeds_draw (ensures_indexUnique h.uniqueIndex restrictions)).bind
    intro unique _
    exact takeId_succeeds.bind fun _ _ => succeeds_pure trivial

theorem ensures_cellValue {p : Real64} (h : Draw.isProbability p = true) (c : Column) :
    (cellValue p c).Ensures c.Receives := by
  have value : (Draw.value c.affinity).Ensures c.Receives :=
    (Draw.ensures_value c.affinity).mono fun _ => .inr
  unfold cellValue
  split
  case isTrue hnullable =>
    apply (ensures_chance h).bind
    intro null _
    split
    · exact ensures_pure (.inl ⟨rfl, hnullable⟩)
    · exact value
  case isFalse => exact value

/-- Rows for all columns, as many as were drawn for, if there is a buffer for what divides them. -/
theorem rows_cases (h : Draw.isProbability options.nullProbability = true)
    (columns : List Column) (s : Source) : ∃ count s₁,
      Draw.size 1 (max options.maxRowsPerInsert 1) s = (.ok count, s₁) ∧
      1 ≤ count ∧ count ≤ max options.maxRowsPerInsert 1 ∧
      (count ≤ 2 ^ 62 → ∃ rows s', Generator.rows options columns s = (.ok rows, s') ∧
        rows.length = count ∧ ∀ row ∈ rows, List.Forall₂ Column.Receives columns row) ∧
      (2 ^ 62 < count → ∃ s', Generator.rows options columns s = (.error .capacityOverflow, s')) := by
  obtain ⟨count, s₁, hcount, hpos, hle⟩ :=
    ensures_size (Nat.le_max_right options.maxRowsPerInsert 1) s
  have hrow : (row options columns).Ensures (List.Forall₂ Column.Receives columns) :=
    Draw.ensures_mapM_forall₂ columns (ensures_cellValue h)
  -- the first row is drawn before room is made for the others
  obtain ⟨first, s₂, hfirst, hfits⟩ := hrow s₁
  refine ⟨count, s₁, hcount, hpos, hle, fun hbound => ?_, fun hbound => ⟨s₂, ?_⟩⟩
  · have hreserve := run_reserve_of_le (separatorBytes_le_iff.2 hbound) s₂
    obtain ⟨others, s₃, hothers, hlength, hrows⟩ := Draw.ensures_repeated hrow (count - 1) s₂
    refine ⟨first :: others, s₃, ?_, ?_, List.forall_mem_cons.2 ⟨hfits, hrows⟩⟩
    · unfold rows
      rw [run_bind hcount, run_bind hfirst, run_bind hreserve, run_bind hothers]
      rfl
    · rw [List.length_cons, hlength]
      omega
  · have hlt : maxCapacity < separatorBytes count :=
      Nat.lt_of_not_le fun hle => Nat.not_lt.2 (separatorBytes_le_iff.1 hle) hbound
    unfold rows
    rw [run_bind hcount, run_bind hfirst, run_bind_error (run_reserve_of_lt hlt s₂)]

theorem granted_rows (h : Draw.isProbability options.nullProbability = true)
    (columns : List Column) (s : Source) :
    Granted (¬ options.Allocable) (fun _ => True) (rows options columns s).1 := by
  obtain ⟨count, s₁, -, -, hle, hfits, hoverflow⟩ := rows_cases h columns s
  obtain hlt | hbound := Nat.lt_or_ge (2 ^ 62) count
  · obtain ⟨s', hrows⟩ := hoverflow hlt
    rw [hrows]
    refine .overflow fun hallocable => Nat.not_lt.2 hle ?_
    have := hallocable.rows
    omega
  · obtain ⟨rows, s', hrows, -⟩ := hfits hbound
    rw [hrows]
    exact .ok trivial

/-- Only too many rows for one buffer keep an insertion from being made. -/
theorem insert_succeeds (h : options.Sound) (table : Table) :
    (insert table).Succeeds (Has options) (¬ options.Allocable) fun _ => True := by
  unfold insert
  split
  · exact succeeds_pure trivial
  · apply succeeds_maker.bind
    rintro g rfl
    apply (succeeds_draw_of_granted (granted_rows h.null _)).bind
    exact fun _ _ => succeeds_pure trivial

end Generator

end PivotedQuery
