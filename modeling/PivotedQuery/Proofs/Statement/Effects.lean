import PivotedQuery.Population.Basic
import PivotedQuery.Proofs.Schema.Probe
import PivotedQuery.Proofs.Statement.Generator
/-!
What a call of the generator gives and what it leaves. Main statements: a CREATE statement is named
by the number that the generator holds, which then goes on with the next one; there is no statement
just if there is nothing to make it for; only a reload changes the tables, and it changes nothing
else.
-/
namespace PivotedQuery

open Draw (run_bind_eq_ok_iff)

/-- A word and a number behind it. -/
def Identifier.numbered (word : String) (n : Nat) : Identifier := ⟨word ++ "_" ++ toString n⟩

/-- The entries are named by these numbers in turn, behind any words. -/
def Numbered {α : Type} (name : α → Identifier) (numbers : List Nat) (xs : List α) : Prop :=
  List.Forall₂ (fun n x => ∃ word, name x = .numbered word n) numbers xs

theorem exists_of_forall₂_of_mem {α β : Type} {R : α → β → Prop} {xs : List α} {ys : List β}
    (h : List.Forall₂ R xs ys) {y : β} (hy : y ∈ ys) : ∃ x ∈ xs, R x y := by
  induction h with
  | nil => cases hy
  | @cons x y' xs ys hx _ ih =>
    rcases List.mem_cons.1 hy with rfl | hy
    · exact ⟨x, List.mem_cons_self, hx⟩
    · obtain ⟨x', hx', hy⟩ := ih hy
      exact ⟨x', List.mem_cons_of_mem x hx', hy⟩

theorem Work.maker_of_run_draw {G α : Type} {d : Draw α} {b b' : Workbench G}
    {r : Except DrawError α} (h : draw d b = (r, b')) : b'.maker = b.maker := by
  obtain ⟨-, rfl⟩ := Prod.mk.inj h
  rfl

theorem Work.exists_run_eq {G α : Type} {w : Work G α} {b : Workbench G} {r : Except DrawError α}
    (h : (w b).1 = r) : ∃ b', w b = (r, b') := ⟨(w b).2, Prod.ext h rfl⟩

/-- What holds of every result for each entry holds of the results together. -/
theorem Draw.forall₂_of_run_mapM {α β : Type} {f : α → Draw β} {R : α → β → Prop} {xs : List α}
    {ys : List β} {s s' : Source} (h : xs.mapM f s = (.ok ys, s'))
    (hf : ∀ {x s y s'}, f x s = (.ok y, s') → R x y) : List.Forall₂ R xs ys := by
  induction xs generalizing ys s with
  | nil =>
    cases h
    exact .nil
  | cons x xs ih =>
    rw [List.mapM_cons] at h
    obtain ⟨y, s₁, hy, h⟩ := run_bind_eq_ok_iff.1 h
    obtain ⟨zs, s₂, hzs, h⟩ := run_bind_eq_ok_iff.1 h
    cases h
    exact .cons (hf hy) (ih hzs)

namespace Generator

/-- Its number has been given away. -/
def next (g : Generator) : Generator := { g with nextId := g.nextId + 1 }

/-- A new table, with its columns numbered from zero on. -/
inductive Creates (g : Generator) : Statement → Generator → Prop
  | intro {word : String} {columns : List Column} {primaryKey : Bool}
      (h : Numbered Column.name (List.range columns.length) columns) :
      Creates g (.createTable (.numbered word g.nextId) columns primaryKey) g.next

/-- An index of one of the tables to choose from, if there is one. -/
inductive Indexes (options : IndexOptions) (g : Generator) :
    Except GenerationError Statement → Generator → Prop
  | noTable (h : g.candidates options = []) :
      Indexes options g (.error (.noTable "create index")) g
  | made {t : Table} {columns : List IndexColumn} {unique : Bool} (h : t ∈ g.candidates options) :
      Indexes options g
        (.ok (.createIndex (.numbered ("idx_" ++ t.name.name) g.nextId) t.name columns unique)) g.next

/-- Rows for all columns of the table, if it has one. -/
inductive Inserts (t : Table) : Except GenerationError Statement → Prop
  | noColumns (h : t.columns = []) : Inserts t (.error (.noColumns t.name.name))
  | made {rows : List (List Value)} (h : t.columns ≠ []) :
      Inserts t (.ok (.insert t.name (t.columns.map (·.name)) rows))

theorem Creates.eq_next {g g' : Generator} {statement : Statement} (h : Creates g statement g') :
    g' = g.next := by
  cases h
  rfl

theorem Creates.kind_eq {g g' : Generator} {statement : Statement} (h : Creates g statement g') :
    statement.kind = .createTable := by
  cases h
  rfl

theorem Creates.tables_eq {g g' : Generator} {statement : Statement} (h : Creates g statement g') :
    g'.tables = g.tables := by
  cases h
  rfl

theorem Indexes.kind_eq {options : IndexOptions} {g g' : Generator}
    {r : Except GenerationError Statement} (h : Indexes options g r g') {statement : Statement}
    (hr : r = .ok statement) : statement.kind = .createIndex := by
  cases h with
  | noTable => cases hr
  | made =>
    cases hr
    rfl

theorem Indexes.tables_eq {options : IndexOptions} {g g' : Generator}
    {r : Except GenerationError Statement} (h : Indexes options g r g') : g'.tables = g.tables := by
  cases h <;> rfl

variable {b b' : Workbench Generator}

theorem run_takeId (b : Workbench Generator) :
    takeId b = (.ok b.maker.nextId, { b with maker := b.maker.next }) := rfl

theorem numbered_of_run_tableName {name : Identifier} (h : tableName b = (.ok name, b')) :
    b'.maker = b.maker.next ∧ ∃ word, name = .numbered word b.maker.nextId := by
  obtain ⟨adjective, b₁, hadjective, h⟩ := run_bind_eq_ok_iff.1 h
  obtain ⟨noun, b₂, hnoun, h⟩ := run_bind_eq_ok_iff.1 h
  obtain ⟨id, b₃, hid, h⟩ := run_bind_eq_ok_iff.1 h
  have hmaker : b₂.maker = b.maker :=
    (Work.maker_of_run_draw hnoun).trans (Work.maker_of_run_draw hadjective)
  rw [run_takeId, hmaker] at hid
  cases hid
  cases h
  exact ⟨rfl, adjective ++ "_" ++ noun, rfl⟩

theorem numbered_of_run_column {p : Real64} {i : Nat} {c : Column} {s s' : Source}
    (h : column p i s = (.ok c, s')) : ∃ word, c.name = .numbered word i := by
  obtain ⟨noun, s₁, -, h⟩ := run_bind_eq_ok_iff.1 h
  obtain ⟨declaredType, s₂, -, h⟩ := run_bind_eq_ok_iff.1 h
  obtain ⟨required, s₃, -, h⟩ := run_bind_eq_ok_iff.1 h
  cases h
  exact ⟨noun, rfl⟩

theorem numbered_of_run_columns {options : GeneratorOptions} {cs : List Column} {s s' : Source}
    (h : columns options s = (.ok cs, s')) :
    Numbered Column.name (List.range cs.length) cs := by
  obtain ⟨count, s₁, -, h⟩ := run_bind_eq_ok_iff.1 h
  obtain ⟨_, s₂, -, h⟩ := run_bind_eq_ok_iff.1 h
  have hcolumns : Numbered Column.name (List.range count) cs :=
    Draw.forall₂_of_run_mapM h numbered_of_run_column
  have hcount : count = cs.length := by
    have := hcolumns.length_eq
    rwa [List.length_range] at this
  rwa [← hcount]

theorem creates_of_run {statement : Statement} (h : createTable b = (.ok statement, b')) :
    Creates b.maker statement b'.maker := by
  obtain ⟨name, b₁, hname, h⟩ := run_bind_eq_ok_iff.1 h
  obtain ⟨g, b₂, hg, h⟩ := run_bind_eq_ok_iff.1 h
  cases hg
  obtain ⟨cs, b₃, hcs, h⟩ := run_bind_eq_ok_iff.1 h
  obtain ⟨primaryKey, b₄, hprimaryKey, h⟩ := run_bind_eq_ok_iff.1 h
  cases h
  obtain ⟨hnext, word, rfl⟩ := numbered_of_run_tableName hname
  have hmaker : b'.maker = b.maker.next :=
    ((Work.maker_of_run_draw hprimaryKey).trans (Work.maker_of_run_draw hcs)).trans hnext
  rw [hmaker]
  exact .intro (numbered_of_run_columns (Work.run_draw_of_ok hcs))

theorem indexes_of_run {options : IndexOptions} {r : Except GenerationError Statement}
    (h : createIndex options b = (.ok r, b')) : Indexes options b.maker r b'.maker := by
  obtain ⟨g, b₁, hg, h⟩ := run_bind_eq_ok_iff.1 h
  cases hg
  dsimp only at h
  split at h
  case isTrue hnone =>
    cases h
    exact .noTable (List.isEmpty_iff.1 hnone)
  case isFalse hsome =>
    obtain ⟨t, b₂, ht, h⟩ := run_bind_eq_ok_iff.1 h
    obtain ⟨columns, b₃, hcolumns, h⟩ := run_bind_eq_ok_iff.1 h
    obtain ⟨unique, b₄, hunique, h⟩ := run_bind_eq_ok_iff.1 h
    obtain ⟨id, b₅, hid, h⟩ := run_bind_eq_ok_iff.1 h
    have hmaker : b₄.maker = b.maker :=
      ((Work.maker_of_run_draw hunique).trans (Work.maker_of_run_draw hcolumns)).trans
        (Work.maker_of_run_draw ht)
    rw [run_takeId, hmaker] at hid
    cases hid
    cases h
    have hne : b.maker.candidates options ≠ [] := by simpa using hsome
    exact .made ((Draw.ensures_pick hne).of_run (Work.run_draw_of_ok ht))

theorem inserts_of_run {t : Table} {r : Except GenerationError Statement}
    (h : insert t b = (.ok r, b')) : Inserts t r ∧ b'.maker = b.maker := by
  unfold insert at h
  split at h
  case isTrue hnone =>
    cases h
    exact ⟨.noColumns (List.isEmpty_iff.1 hnone), rfl⟩
  case isFalse hsome =>
    obtain ⟨g, b₁, hg, h⟩ := run_bind_eq_ok_iff.1 h
    cases hg
    obtain ⟨rows, b₂, hrows, h⟩ := run_bind_eq_ok_iff.1 h
    cases h
    exact ⟨.made (by simpa using hsome), Work.maker_of_run_draw hrows⟩

/-! The same of the texts that a maker gives. -/

variable {made : Except GenerationError String}

theorem made_of_run_createTable (h : maker.createTable b = (.ok made, b')) :
    ∃ statement, made = .ok statement.sql ∧ Creates b.maker statement b'.maker := by
  obtain ⟨statement, b₁, hrun, h⟩ := run_bind_eq_ok_iff.1 h
  cases h
  exact ⟨statement, rfl, creates_of_run hrun⟩

theorem made_of_run_createIndex {options : IndexOptions}
    (h : maker.createIndex options b = (.ok made, b')) :
    ∃ r, made = r.map Statement.sql ∧ Indexes options b.maker r b'.maker := by
  obtain ⟨r, b₁, hrun, h⟩ := run_bind_eq_ok_iff.1 h
  cases h
  exact ⟨r, rfl, indexes_of_run hrun⟩

theorem made_of_run_insert {t : Table} (h : maker.insert t b = (.ok made, b')) :
    ∃ r, made = r.map Statement.sql ∧ Inserts t r ∧ b'.maker = b.maker := by
  obtain ⟨r, b₁, hrun, h⟩ := run_bind_eq_ok_iff.1 h
  cases h
  exact ⟨r, rfl, inserts_of_run hrun⟩

/-- The tables that were read in place of those before; if none could be, nothing changes. -/
def afterProbe (g : Generator) : Except SchemaError (List Table) → Generator
  | .ok tables => { g with tables }
  | .error _ => g

theorem nextId_afterProbe (g : Generator) (r : Except SchemaError (List Table)) :
    (g.afterProbe r).nextId = g.nextId := by
  cases r <;> rfl

theorem says_reload_reads (database : String) (g : Generator) : (reload database g).Says fun xs o =>
    ∀ r, o = some r → ∃ tables, Probe.Reads database xs tables ∧
      r = (tables.map fun _ => (), g.afterProbe tables) := by
  apply (Probe.says_fetch_reads database).bind
  · exact fun _ _ _ h => nomatch h
  rintro xs (e | tables) hxs
  · refine Dialogue.after_pure ?_
    rintro _ ⟨⟩
    exact ⟨_, hxs _ rfl, rfl⟩
  · refine Dialogue.after_pure ?_
    rintro _ ⟨⟩
    exact ⟨_, hxs _ rfl, rfl⟩

end Generator

end PivotedQuery
