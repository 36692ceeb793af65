import PivotedQuery.Proofs.Population.Filling
import PivotedQuery.Proofs.Population.Protocol
/-!
What is counted while a database is filled. Main statement: with a valid configuration and against a
database that answers, be it by errors, filling comes to its end unless a buffer cannot be had; it
attempts the tables drawn, the indexes drawn and one insert for each table read, in that order; and
its report counts the statements that were granted, and as failures those that were refused or
could not be made.
-/
namespace PivotedQuery

open Dialogue (says_pure says_call after_log_bind)

variable {σ G α β : Type}

/-- The text of a statement of this kind, or why there is none. -/
def StatementKind.Makes (kind : StatementKind) (made : Except GenerationError String) : Prop :=
  ∃ r : Except GenerationError Statement,
    made = r.map Statement.sql ∧ ∀ statement, r = .ok statement → statement.kind = kind

/-- The text of a statement that inserts into this table, or that it has no column. -/
def Table.Fills (t : Table) (made : Except GenerationError String) : Prop :=
  ∃ r, made = r.map Statement.sql ∧ Generator.Inserts t r

/-- A statement that could not be made, or one that was sent and answered. -/
inductive Attempt
  | unmade (e : GenerationError)
  | sent (sql : String) (answer : Except ExecutionError Unit)

namespace Attempt

def made : Attempt → Except GenerationError String
  | unmade e => .error e
  | sent sql _ => .ok sql

def executed : Attempt → Bool
  | unmade _ => false
  | sent _ answer => answer.isOk

def said : Attempt → List Exchange
  | unmade _ => []
  | sent sql answer => [⟨.exec sql, some answer⟩]

theorem countP_granted_said (a : Attempt) :
    a.said.countP (·.granted) = if a.executed then 1 else 0 := by
  cases a with
  | unmade e => rfl
  | sent sql answer => cases answer <;> rfl

/-- What is not executed was refused or could not be made, but not both. -/
theorem countP_refused_said (a : Attempt) :
    a.said.countP (!·.granted) + (if !a.made.isOk then 1 else 0) = if a.executed then 0 else 1 := by
  cases a with
  | unmade e => rfl
  | sent sql answer => cases answer <;> rfl

end Attempt

/-! Counts. -/

namespace KindCounts

/-- Granted statements were executed; refused ones and those that could not be made have failed. -/
def of (attempts : List Attempt) : KindCounts where
  executed := (attempts.flatMap Attempt.said).countP (·.granted)
  failed := (attempts.flatMap Attempt.said).countP (!·.granted) +
    attempts.countP (!·.made.isOk)

def plus (c d : KindCounts) : KindCounts := ⟨c.executed + d.executed, c.failed + d.failed⟩

theorem empty_plus (c : KindCounts) : ({} : KindCounts).plus c = c := by simp [plus]

theorem plus_record (c d : KindCounts) (ok : Bool) :
    (c.record ok).plus d = c.plus (d.record ok) := by
  cases ok <;> simp [record, plus] <;> omega

theorem total_record (c : KindCounts) (ok : Bool) : (c.record ok).total = c.total + 1 := by
  cases ok <;> simp [record, total] <;> omega

theorem of_cons (a : Attempt) (attempts : List Attempt) :
    of (a :: attempts) = (of attempts).record a.executed := by
  have hgranted := a.countP_granted_said
  have hrefused := a.countP_refused_said
  unfold of
  rw [List.flatMap_cons, List.countP_append, List.countP_append, List.countP_cons]
  cases hok : a.executed with
  | false =>
    simp only [hok, record, Bool.false_eq_true, if_false, mk.injEq] at hgranted hrefused ⊢
    omega
  | true =>
    simp only [hok, record, if_true, mk.injEq] at hgranted hrefused ⊢
    omega

theorem total_of (attempts : List Attempt) : (of attempts).total = attempts.length := by
  induction attempts with
  | nil => rfl
  | cons a attempts ih => rw [of_cons, total_record, ih, List.length_cons]

end KindCounts

namespace Report

theorem eq_of_counts {r r' : Report} (h : ∀ kind, r.counts kind = r'.counts kind) : r = r' := by
  obtain ⟨tables, indexes, inserts⟩ := r
  obtain rfl : tables = r'.tables := h .createTable
  obtain rfl : indexes = r'.indexes := h .createIndex
  obtain rfl : inserts = r'.inserts := h .insert
  rfl

/-- With all attempts recorded as of one kind. -/
def recorded (r : Report) (kind : StatementKind) (attempts : List Attempt) : Report :=
  attempts.foldl (fun r a => r.record kind a.executed) r

theorem counts_record (r : Report) (kind kind' : StatementKind) (ok : Bool) :
    (r.record kind ok).counts kind' =
      if kind = kind' then (r.counts kind').record ok else r.counts kind' := by
  cases kind <;> cases kind' <;> rfl

theorem counts_recorded (r : Report) (kind kind' : StatementKind) (attempts : List Attempt) :
    (r.recorded kind attempts).counts kind' =
      if kind = kind' then (r.counts kind').plus (.of attempts) else r.counts kind' := by
  induction attempts generalizing r with
  | nil => split <;> rfl
  | cons a attempts ih =>
    refine (ih (r.record kind a.executed)).trans ?_
    rw [counts_record]
    split
    · rw [KindCounts.plus_record, KindCounts.of_cons]
    · rfl

end Report

/-! Attempts in turn. -/

/-- Each work is made from the bench that the one before it left, and what it gives is attempted. -/
inductive Attempted : List (Work G (Except GenerationError String)) → Workbench G →
    List Attempt → Workbench G → Prop
  | nil {b : Workbench G} : Attempted [] b [] b
  | cons {w : Work G (Except GenerationError String)}
      {ws : List (Work G (Except GenerationError String))} {b b₁ b' : Workbench G} {a : Attempt}
      {attempts : List Attempt} (h : w b = (.ok a.made, b₁)) (hrest : Attempted ws b₁ attempts b') :
      Attempted (w :: ws) b (a :: attempts) b'

namespace Attempted

variable {works : List (Work G (Except GenerationError String))} {b b' : Workbench G}
  {attempts : List Attempt}

theorem runs (h : Attempted works b attempts b') :
    List.Forall₂ (fun w a => ∃ b₁ b₂, w b₁ = (.ok a.made, b₂)) works attempts := by
  induction h with
  | nil => exact .nil
  | cons hw _ ih => exact .cons ⟨_, _, hw⟩ ih

theorem length_eq (h : Attempted works b attempts b') : attempts.length = works.length :=
  h.runs.length_eq.symm

/-- What every work leaves of the maker as it was is left as it was. -/
theorem eq_of_forall {γ : Type} (f : G → γ) (h : Attempted works b attempts b')
    (hworks : ∀ w ∈ works, ∀ {b made b'}, w b = (.ok made, b') → f b'.maker = f b.maker) :
    f b'.maker = f b.maker := by
  induction h with
  | nil => rfl
  | cons hw _ ih =>
    obtain ⟨hfirst, hworks⟩ := List.forall_mem_cons.1 hworks
    exact (ih hworks).trans (hfirst hw)

/-- One work again and again. -/
theorem of_replicate {n : Nat} {w : Work Generator (Except GenerationError String)}
    {kind : StatementKind} {b b' : Workbench Generator} (h : Attempted (.replicate n w) b attempts b')
    (hw : ∀ {b made b'}, w b = (.ok made, b') →
      kind.Makes made ∧ b'.maker.tables = b.maker.tables) :
    attempts.length = n ∧ (∀ a ∈ attempts, kind.Makes a.made) ∧
      b'.maker.tables = b.maker.tables := by
  refine ⟨h.length_eq.trans List.length_replicate, fun a ha => ?_, ?_⟩
  · obtain ⟨w', hw', c, c', hrun⟩ := exists_of_forall₂_of_mem h.runs ha
    rw [List.eq_of_mem_replicate hw'] at hrun
    exact (hw hrun).1
  · refine h.eq_of_forall Generator.tables fun w' hw' c made c' hrun => ?_
    rw [List.eq_of_mem_replicate hw'] at hrun
    exact (hw hrun).2

theorem of_inserts {tables : List Table} {b b' : Workbench Generator}
    (h : Attempted (tables.map Generator.maker.insert) b attempts b') :
    List.Forall₂ (fun t a => t.Fills a.made) tables attempts ∧ b'.maker = b.maker := by
  constructor
  · refine (List.forall₂_map_left_iff.1 h.runs).imp fun t a hrun => ?_
    obtain ⟨c, c', hrun⟩ := hrun
    obtain ⟨r, hmade, hr, -⟩ := Generator.made_of_run_insert hrun
    exact ⟨r, hmade, hr⟩
  · refine h.eq_of_forall id fun w hw c made c' hrun => ?_
    obtain ⟨t, -, rfl⟩ := List.mem_map.1 hw
    obtain ⟨r, -, -, hmaker⟩ := Generator.made_of_run_insert hrun
    exact hmaker

end Attempted

namespace Generator

variable {b b' : Workbench Generator} {made : Except GenerationError String}

theorem makes_of_run_createTable (h : maker.createTable b = (.ok made, b')) :
    StatementKind.createTable.Makes made ∧ b'.maker.tables = b.maker.tables := by
  obtain ⟨statement, hmade, hcreates⟩ := made_of_run_createTable h
  refine ⟨⟨.ok statement, hmade, ?_⟩, hcreates.tables_eq⟩
  rintro _ ⟨⟩
  exact hcreates.kind_eq

theorem makes_of_run_createIndex {options : IndexOptions}
    (h : maker.createIndex options b = (.ok made, b')) :
    StatementKind.createIndex.Makes made ∧ b'.maker.tables = b.maker.tables := by
  obtain ⟨r, hmade, hindexes⟩ := made_of_run_createIndex h
  exact ⟨⟨r, hmade, fun _ => hindexes.kind_eq⟩, hindexes.tables_eq⟩

end Generator

namespace Populating

/-- Whatever is answered, this holds of what is said, of the result if there is one, and of the
bench that is left with it. -/
def Gives (post : List Exchange → α → Workbench G → Prop) (p : Populating G α) (b : Workbench G) :
    Prop :=
  (p b).Says fun xs o => ∀ a b', o = some (.ok a, b') → post xs a b'

variable {b : Workbench G} {p : Populating G α} {mid post : List Exchange → α → Workbench G → Prop}

theorem gives_pure {a : α} (h : post [] a b) : (pure a : Populating G α).Gives post b := by
  refine says_pure ?_
  rintro _ _ ⟨⟩
  exact h

theorem Gives.mono (hp : p.Gives mid b) (h : ∀ xs a b', mid xs a b' → post xs a b') :
    p.Gives post b :=
  Dialogue.Says.mono hp fun xs _ hxs a b' ho => h xs a b' (hxs a b' ho)

theorem Gives.bind {post : List Exchange → β → Workbench G → Prop} {f : α → Populating G β}
    (hp : p.Gives mid b)
    (hf : ∀ xs a b₁, mid xs a b₁ → (f a).Gives (fun ys c b' => post (xs ++ ys) c b') b₁) :
    (p >>= f).Gives post b := by
  apply Dialogue.Says.bind_append hp
  · exact fun _ _ _ _ h => nomatch h
  rintro xs ⟨e | a, b₁⟩ hxs
  · exact says_pure fun _ _ h => nomatch h
  · exact hf xs a b₁ (hxs a b₁ rfl)

theorem gives_work (w : Work G α) :
    (work w).Gives (fun xs a b' => xs = [] ∧ w b = (.ok a, b')) b :=
  says_pure fun _ _ h => ⟨rfl, Option.some.inj h⟩

theorem gives_talk {d : Dialogue α} {said : List Exchange → Option α → Prop} (hd : d.Says said) :
    (talk d : Populating G α).Gives (fun xs a b' => said xs (some a) ∧ b' = b) b := by
  apply hd.bind
  · exact fun _ _ _ _ h => nomatch h
  · refine fun xs a hxs => Dialogue.after_pure ?_
    rintro _ _ ⟨⟩
    exact ⟨hxs, rfl⟩

theorem gives_bench : (bench : Populating G (Workbench G)).Gives
    (fun xs a b' => xs = [] ∧ a = b ∧ b' = b) b := by
  refine says_pure ?_
  rintro _ _ ⟨⟩
  exact ⟨rfl, rfl, rfl⟩

theorem says_attempt (kind : StatementKind) (made : Except GenerationError String)
    (report : Report) : (attempt kind made report).Says fun xs o => ∀ r, o = some r →
      ∃ a : Attempt, a.made = made ∧ xs = a.said ∧ r = report.record kind a.executed := by
  cases made with
  | error e =>
    refine Dialogue.After.saying (after_log_bind (Dialogue.after_pure ?_))
    rintro _ ⟨⟩
    exact ⟨.unmade e, rfl, rfl, rfl⟩
  | ok sql =>
    apply (says_call _).bind
    · exact fun _ _ _ h => nomatch h
    rintro _ (e | ⟨⟩) rfl
    · refine after_log_bind (Dialogue.after_pure ?_)
      rintro _ ⟨⟩
      exact ⟨.sent sql (.error e), rfl, rfl, rfl⟩
    · refine after_log_bind (Dialogue.after_pure ?_)
      rintro _ ⟨⟩
      exact ⟨.sent sql (.ok ()), rfl, rfl, rfl⟩

theorem gives_attemptAll (kind : StatementKind)
    (works : List (Work G (Except GenerationError String))) (report : Report) (b : Workbench G) :
    (attemptAll kind works report).Gives (fun xs r b' => ∃ attempts, Attempted works b attempts b' ∧
      xs = attempts.flatMap Attempt.said ∧ r = report.recorded kind attempts) b := by
  induction works generalizing report b with
  | nil => exact gives_pure ⟨[], .nil, rfl, rfl⟩
  | cons w works ih =>
    apply (gives_work w).bind
    rintro _ made b₁ ⟨rfl, hw⟩
    apply (gives_talk (says_attempt kind made report)).bind
    rintro xs r _ ⟨hxs, rfl⟩
    obtain ⟨a, rfl, rfl, rfl⟩ := hxs r rfl
    apply (ih _ _).mono
    rintro ys r' b' ⟨attempts, hattempts, rfl, rfl⟩
    exact ⟨a :: attempts, .cons hw hattempts, rfl, rfl⟩

theorem gives_reload (database : String) (b : Workbench Generator) :
    (reload Generator.maker database).Gives (fun xs _ b' => ∃ read, Probe.Reads database xs read ∧
      b' = { b with maker := b.maker.afterProbe read }) b := by
  apply (Generator.says_reload_reads database b.maker).bind
  · exact fun _ _ _ _ h => nomatch h
  intro xs r hxs
  obtain ⟨read, hread, rfl⟩ := hxs r rfl
  cases read with
  | error e =>
    refine after_log_bind (Dialogue.after_pure ?_)
    rintro _ _ ⟨⟩
    exact ⟨_, hread, rfl⟩
  | ok tables =>
    refine Dialogue.after_pure ?_
    rintro _ _ ⟨⟩
    exact ⟨_, hread, rfl⟩

end Populating

/-! What happens while a database is filled. -/

/-- The numbers drawn, what was attempted, and what was read between the tables and the indexes. -/
structure Filling where
  tableCount : Nat
  tables : List Attempt
  probe : List Exchange
  read : Except SchemaError (List Table)
  indexCount : Nat
  indexes : List Attempt
  inserts : List Attempt

namespace Filling

def said (f : Filling) : List Exchange :=
  f.tables.flatMap Attempt.said ++ (f.probe ++
    (f.indexes.flatMap Attempt.said ++ f.inserts.flatMap Attempt.said))

def report (f : Filling) : Report where
  tables := .of f.tables
  indexes := .of f.indexes
  inserts := .of f.inserts

/-- The phases in turn, each from the bench that the one before it left. -/
inductive Happens (database : WorkingDatabase) (b b' : Workbench Generator) (f : Filling) : Prop
  | intro {b₁ b₂ b₃ b₄ : Workbench Generator}
      (htableCount : Work.draw (Draw.size 1 database.limits.maxTables) b = (.ok f.tableCount, b₁))
      (htables : Attempted (List.replicate f.tableCount Generator.maker.createTable) b₁ f.tables b₂)
      (hprobe : Probe.Reads database.name f.probe f.read)
      (hindexCount : Work.draw (Draw.size 0 database.limits.maxIndexes)
        { b₂ with maker := b₂.maker.afterProbe f.read } = (.ok f.indexCount, b₃))
      (hindexes : Attempted (List.replicate f.indexCount
        (Generator.maker.createIndex { online := true })) b₃ f.indexes b₄)
      (hinserts : Attempted (b₄.maker.tables.map Generator.maker.insert) b₄ f.inserts b')

/-- Each phase records its own kind. -/
theorem report_eq (f : Filling) : (((({} : Report).recorded .createTable f.tables).recorded
    .createIndex f.indexes).recorded .insert f.inserts) = f.report := by
  refine Report.eq_of_counts fun kind => ?_
  rw [Report.counts_recorded, Report.counts_recorded, Report.counts_recorded]
  cases kind <;> exact KindCounts.empty_plus _

/-- What the report and the generator's tables come to. `before` and `after` are the tables that the
generator held before and after the filling. -/
structure Accounts (f : Filling) (limits : PopulationLimits) (before after : List Table)
    (report : Report) : Prop where
  tableCount_pos : 1 ≤ f.tableCount
  tableCount_le : f.tableCount ≤ limits.maxTables
  indexCount_le : f.indexCount ≤ limits.maxIndexes
  tables_total : report.tables.executed + report.tables.failed = f.tableCount
  indexes_total : report.indexes.executed + report.indexes.failed = f.indexCount
  inserts_total : report.inserts.executed + report.inserts.failed = after.length
  tables_eq : report.tables = .of f.tables
  indexes_eq : report.indexes = .of f.indexes
  inserts_eq : report.inserts = .of f.inserts
  tables_made : ∀ a ∈ f.tables, StatementKind.createTable.Makes a.made
  indexes_made : ∀ a ∈ f.indexes, StatementKind.createIndex.Makes a.made
  inserts_made : List.Forall₂ (fun t a => t.Fills a.made) after f.inserts
  after_of_ok : ∀ tables, f.read = .ok tables → after = tables
  after_of_error : ∀ e, f.read = .error e → after = before

theorem Happens.accounts {database : WorkingDatabase} {b b' : Workbench Generator} {f : Filling}
    (h : f.Happens database b b') :
    f.Accounts database.limits b.maker.tables b'.maker.tables f.report := by
  obtain @⟨b₁, b₂, b₃, b₄, htableCount, htables, -, hindexCount, hindexes, hinserts⟩ := h
  obtain ⟨hpos, hle⟩ := Draw.bounds_of_size (Work.run_draw_of_ok htableCount)
  obtain ⟨-, hindexLe⟩ := Draw.bounds_of_size (Work.run_draw_of_ok hindexCount)
  obtain ⟨htablesLength, htablesMade, hcreated⟩ :=
    htables.of_replicate Generator.makes_of_run_createTable
  obtain ⟨hindexesLength, hindexesMade, hindexed⟩ :=
    hindexes.of_replicate Generator.makes_of_run_createIndex
  obtain ⟨hinsertsMade, hinserted⟩ := hinserts.of_inserts
  -- only the reload changes the tables
  have hbefore : b₂.maker.tables = b.maker.tables :=
    hcreated.trans (congrArg Generator.tables (Work.maker_of_run_draw htableCount))
  have hafter : b'.maker.tables = (b₂.maker.afterProbe f.read).tables := by
    rw [hinserted, hindexed, Work.maker_of_run_draw hindexCount]
  rw [← congrArg Generator.tables hinserted] at hinsertsMade
  exact
    { tableCount_pos := hpos
      tableCount_le := hle
      indexCount_le := hindexLe
      tables_total := (KindCounts.total_of f.tables).trans htablesLength
      indexes_total := (KindCounts.total_of f.indexes).trans hindexesLength
      inserts_total := (KindCounts.total_of f.inserts).trans hinsertsMade.length_eq.symm
      tables_eq := rfl
      indexes_eq := rfl
      inserts_eq := rfl
      tables_made := htablesMade
      indexes_made := hindexesMade
      inserts_made := hinsertsMade
      after_of_ok := fun tables hread => by
        rw [hafter, hread]
        rfl
      after_of_error := fun e hread => by
        rw [hafter, hread]
        exact hbefore }

end Filling

theorem WorkingDatabase.gives_populate (database : WorkingDatabase) (b : Workbench Generator) :
    (database.populate Generator.maker).Gives (fun xs report b' =>
      ∃ f : Filling, xs = f.said ∧ f.Happens database b b' ∧ report = f.report) b := by
  apply (Populating.gives_work _).bind
  rintro _ tableCount b₁ ⟨rfl, htableCount⟩
  apply (Populating.gives_attemptAll _ _ _ _).bind
  rintro _ r b₂ ⟨tables, htables, rfl, rfl⟩
  apply (Populating.gives_reload _ _).bind
  rintro probe _ _ ⟨read, hprobe, rfl⟩
  apply (Populating.gives_work _).bind
  rintro _ indexCount b₃ ⟨rfl, hindexCount⟩
  apply (Populating.gives_attemptAll _ _ _ _).bind
  rintro _ r b₄ ⟨indexes, hindexes, rfl, rfl⟩
  apply Populating.gives_bench.bind
  rintro _ _ _ ⟨rfl, rfl, rfl⟩
  apply (Populating.gives_attemptAll _ _ _ _).bind
  rintro _ r b' ⟨inserts, hinserts, rfl, rfl⟩
  apply (Populating.gives_talk (Dialogue.says_log _)).bind
  rintro _ _ _ ⟨rfl, rfl⟩
  let f : Filling := ⟨tableCount, tables, probe, read, indexCount, indexes, inserts⟩
  refine Populating.gives_pure ⟨f, ?_, ?_, f.report_eq⟩
  · simp [Filling.said, f]
  · exact .intro htableCount htables hprobe hindexCount hindexes hinserts

/-- Takes no new table and tells nothing of those that it has. -/
def closedBackend : Backend Unit := .fixed fun
  | .listTables name => .error (.unknownDatabase name)
  | .listColumns _ _ | .listIndexes _ _ | .select _ => .ok []
  | .exec sql => if sql.startsWith "CREATE TABLE" then .error (.failed sql "full") else .ok ()
  | .dropDatabase _ | .createDatabase _ | .useDatabase _ | .seedRandom _ => .ok ()
  | .interruptHandle => ()

def smallDatabase : WorkingDatabase := ⟨"pqs", { maxTables := 2, maxIndexes := 1 }⟩

/-- Holds a table from before, and one without columns. -/
def staleBench : Workbench Generator :=
  ⟨{ tables := [⟨⟨"t"⟩, [⟨⟨"a"⟩, "TEXT", true⟩], []⟩, ⟨⟨"u"⟩, [], []⟩] }, .cycle #[0xFFFFFFFF]⟩

/-- Allows for more columns than there is a buffer for. -/
def wideDatabase : WorkingDatabase := ⟨"pqs", { maxTables := 1, maxColumns := 2 ^ 64 - 1 }⟩

def wideBench : Workbench Generator := ⟨.fresh wideDatabase.limits, .cycle #[0xFFFFFFFF]⟩

end PivotedQuery
