import PivotedQuery.Proofs.Dialogue.Transcript
import PivotedQuery.Proofs.Pivot.Selection
import PivotedQuery.Proofs.Query.Text
import PivotedQuery.Proofs.Session.Iteration
import PivotedQuery.Session.Lifecycle
/-!
The parts of a session that are alike whatever their statements and queries are told: the probes,
the choice of a pivot, the filling of a database, the start, and an iteration up to its statistics.
-/
namespace PivotedQuery

open Dialogue (Alike alike_pure alike_log alike_call alike_exec)

/-! Probes and pivots depend on nothing but what is shared. -/

namespace Probe

theorem alike_table (database : String) (name : Identifier) :
    Alike Eq (table database name) (table database name) := by
  refine (alike_call rfl).bind ?_
  rintro (err | columns) _ rfl
  · exact alike_pure rfl
  refine (alike_call rfl).bind ?_
  rintro (err | indexes) _ rfl
  · exact alike_pure rfl
  · exact alike_pure rfl

theorem alike_tables (database : String) (names : List Identifier) :
    Alike Eq (tables database names) (tables database names) := by
  induction names with
  | nil => exact alike_pure rfl
  | cons name names ih =>
    refine (alike_table database name).bind ?_
    rintro (err | t) _ rfl
    · exact alike_pure rfl
    · refine ih.bind ?_
      rintro result _ rfl
      exact alike_pure rfl

theorem alike_fetch (database : String) : Alike Eq (fetch database) (fetch database) := by
  refine (alike_call rfl).bind ?_
  rintro (err | names) _ rfl
  · exact alike_pure rfl
  · exact alike_tables database names

theorem alike_refresh (database : String) (old : List Table) :
    Alike Eq (refresh database old) (refresh database old) := by
  refine (alike_fetch database).bind ?_
  rintro (err | tables) _ rfl
  · exact alike_pure rfl
  · exact (alike_log _ _).bind fun _ _ _ => alike_pure rfl

end Probe

namespace Pivot

theorem isShared_rowSql (t : Table) : (Request.select (rowSql t)).isShared = true := by
  have hword : Text.expect "SELECT * FROM " (rowSql t).toList =
      some (t.name.quoted.toList ++ " ORDER BY RANDOM() LIMIT 1".toList) := by
    unfold rowSql Text.expect
    rw [String.toList_append, String.toList_append, List.append_assoc, Text.expectChars_append]
  simp [Request.isShared, Request.choosesPivot, hword]

theorem alike_fetch (c : Choice) (tables : List Table) :
    Alike Eq (fetch c tables) (fetch c tables) := by
  induction tables generalizing c with
  | nil => exact alike_pure rfl
  | cons t tables ih =>
    refine (alike_call (isShared_rowSql t)).bind ?_
    rintro (err | _ | ⟨row, rows⟩) _ rfl
    · exact alike_pure rfl
    · exact (alike_log _ _).bind fun _ _ _ => ih c
    · dsimp only
      split
      · exact alike_pure rfl
      · exact ih _

theorem alike_choose (tables : List Table) :
    (choose tables).Ensures fun r => Alike Eq r.2 r.2 := by
  unfold choose
  split
  · exact Draw.ensures_pure (alike_pure rfl)
  case isFalse h => exact (ensures_selection (by simpa using h)).map fun s _ => alike_fetch {} _

end Pivot

namespace Query

/-- A query says whether it is distinct or shows columns by their names. -/
theorem toList_sql_starts (q : Query) :
    ∃ c cs, q.sql.toList = "SELECT ".toList ++ c :: cs ∧ c ≠ '*' := by
  unfold sql
  simp only [String.toList_append, List.append_assoc]
  cases q.distinct with
  | true => exact ⟨'D', _, rfl, by decide⟩
  | false =>
    cases q.columns with
    | nil => exact ⟨' ', _, rfl, by decide⟩
    | cons key keys =>
      obtain ⟨cs, hkey⟩ := key.qualified_toList
      rw [toList_commaList_cons, hkey]
      exact ⟨'\x22', _, rfl, by decide⟩

theorem isShared_of_render {q : Query} {tables : List Table} {pivot : PivotRow}
    {text : RenderedQuery} (h : q.render tables pivot = .ok text) :
    (Request.select text.sql).isShared = false := by
  obtain ⟨r, -, rfl⟩ := rectified_of_render h
  obtain ⟨c, cs, hsql, hc⟩ := r.toList_sql_starts
  simp [Request.isShared, Request.choosesPivot, Text.expect, hsql, Text.expectChars, hc.symm]

end Query

/-! Filling a database: the report alone tells what became of a statement. -/

namespace Populating

variable {G α β γ δ : Type}

/-- The same of two results that are both there, or the same failure. -/
inductive SameOutcome (post : α → β → Prop) : Except DrawError α → Except DrawError β → Prop
  | error (e : DrawError) : SameOutcome post (.error e) (.error e)
  | ok {a : α} {b : β} (h : post a b) : SameOutcome post (.ok a) (.ok b)

/-- At one bench both ask the same and leave the bench alike. -/
def AlikeAtBench (post : α → β → Prop) (p : Populating G α) (q : Populating G β) : Prop :=
  ∀ b : Workbench G, Alike (fun r s => SameOutcome post r.1 s.1 ∧ r.2 = s.2) (p b) (q b)

variable {post : α → β → Prop} {p : Populating G α} {q : Populating G β}

theorem alikeAtBench_pure {a : α} {b : β} (h : post a b) :
    AlikeAtBench post (pure a : Populating G α) (pure b : Populating G β) :=
  fun _ => .done ⟨.ok h, rfl⟩

theorem AlikeAtBench.bind {post' : γ → δ → Prop} {f : α → Populating G γ} {g : β → Populating G δ}
    (h : AlikeAtBench post p q) (hf : ∀ a b, post a b → AlikeAtBench post' (f a) (g b)) :
    AlikeAtBench post' (p >>= f) (q >>= g) := by
  intro b
  refine (h b).bind ?_
  rintro ⟨r, b₁⟩ ⟨s, b₂⟩ ⟨hresult, rfl : b₁ = b₂⟩
  cases hresult with
  | error e => exact .done ⟨.error e, rfl⟩
  | ok hpost => exact hf _ _ hpost b₁

theorem alikeAtBench_work (w : Work G α) : AlikeAtBench Eq (work w) (work w) := by
  intro b
  refine .done ⟨?_, rfl⟩
  cases (w b).1 with
  | error e => exact .error e
  | ok a => exact .ok rfl

theorem alikeAtBench_bench : AlikeAtBench Eq (bench : Populating G (Workbench G)) bench :=
  fun _ => .done ⟨.ok rfl, rfl⟩

theorem alikeAtBench_talk {d : Dialogue α} {d' : Dialogue β} (h : Alike post d d') :
    AlikeAtBench post (talk d : Populating G α) (talk d') :=
  fun _ => h.bind fun _ _ hpost => .done ⟨.ok hpost, rfl⟩

/-- Whether a statement succeeds is only counted. -/
theorem alike_attempt (kind : StatementKind) (made : Except GenerationError String)
    (report report' : Report) :
    Alike (fun _ _ => True) (attempt kind made report) (attempt kind made report') := by
  cases made with
  | error e => exact (alike_log _ _).bind fun _ _ _ => alike_pure trivial
  | ok sql =>
    refine (alike_exec sql).bind ?_
    rintro (e | _) (e' | _) -
    all_goals exact (alike_log _ _).bind fun _ _ _ => alike_pure trivial

theorem alikeAtBench_attemptAll (kind : StatementKind)
    (works : List (Work G (Except GenerationError String))) (report report' : Report) :
    AlikeAtBench (fun _ _ => True) (attemptAll kind works report)
      (attemptAll kind works report') := by
  induction works generalizing report report' with
  | nil => exact alikeAtBench_pure trivial
  | cons w works ih =>
    refine (alikeAtBench_work w).bind ?_
    rintro made _ rfl
    exact (alikeAtBench_talk (alike_attempt kind made report report')).bind fun _ _ _ => ih _ _

theorem alikeAtBench_reload (database : String) :
    AlikeAtBench Eq (reload Generator.maker database) (reload Generator.maker database) := by
  intro b
  have hreload : Alike Eq (Generator.reload database b.maker)
      (Generator.reload database b.maker) := by
    refine (Probe.alike_fetch database).bind ?_
    rintro (err | tables) _ rfl
    · exact alike_pure rfl
    · exact alike_pure rfl
  refine hreload.bind ?_
  rintro ⟨err | _, g⟩ _ rfl
  · exact (alike_log _ _).bind fun _ _ _ => alike_pure ⟨.ok rfl, rfl⟩
  · exact alike_pure ⟨.ok rfl, rfl⟩

end Populating

namespace WorkingDatabase

open Populating

theorem alike_reset (database : WorkingDatabase) : Alike Eq database.reset database.reset := by
  refine (alike_call rfl).bind ?_
  rintro (err | _) _ rfl
  · exact alike_pure rfl
  refine (alike_call rfl).bind ?_
  rintro (err | _) _ rfl
  · exact alike_pure rfl
  refine (alike_call rfl).bind ?_
  rintro (err | _) _ rfl
  · exact alike_pure rfl
  · exact (alike_log _ _).bind fun _ _ _ => alike_pure rfl

theorem alikeAtBench_populate (database : WorkingDatabase) :
    AlikeAtBench (fun _ _ => True) (database.populate Generator.maker)
      (database.populate Generator.maker) := by
  refine (alikeAtBench_work _).bind ?_
  rintro tableCount _ rfl
  refine (alikeAtBench_attemptAll _ _ _ _).bind fun report report' _ => ?_
  refine (alikeAtBench_reload database.name).bind fun _ _ _ => ?_
  refine (alikeAtBench_work _).bind ?_
  rintro indexCount _ rfl
  refine (alikeAtBench_attemptAll _ _ _ _).bind fun report report' _ => ?_
  refine alikeAtBench_bench.bind ?_
  rintro b _ rfl
  refine (alikeAtBench_attemptAll _ _ _ _).bind fun report report' _ => ?_
  exact (alikeAtBench_talk (alike_log _ _)).bind fun _ _ _ => alikeAtBench_pure trivial

end WorkingDatabase

/-! Up to its start a session does not depend on what is told of its statements. -/

namespace Session

variable {G S : Type}

theorem alike_opened (maker : G) (synthesizer : S) (profile : Profile) (entropy : UInt64) :
    Alike Eq (opened maker synthesizer profile entropy)
      (opened maker synthesizer profile entropy) := by
  unfold opened
  split
  · exact alike_pure rfl
  refine (alike_log _ _).bind fun _ _ _ => (alike_call rfl).bind ?_
  rintro (err | _) _ rfl
  · exact alike_pure rfl
  · exact alike_pure rfl

theorem alike_snapshot (database : WorkingDatabase) (e : Engine G S) :
    Alike Eq (snapshot database e) (snapshot database e) := by
  refine (Probe.alike_refresh database.name e.snapshot).bind ?_
  rintro ⟨err | tables, old⟩ _ rfl
  · exact alike_pure rfl
  · exact (alike_log _ _).bind fun _ _ _ => alike_pure rfl

variable {tools : Tools Generator S} (htools : tools.maker = Generator.maker)
include htools

theorem alike_prepare (database : WorkingDatabase) (e : Engine Generator S) :
    Alike Eq (prepare tools database e) (prepare tools database e) := by
  refine database.alike_reset.bind ?_
  rintro (err | _) _ rfl
  · exact alike_pure rfl
  rw [htools]
  refine (database.alikeAtBench_populate e.bench).bind ?_
  rintro ⟨_, b⟩ ⟨_, b'⟩ ⟨hresult, rfl : b = b'⟩
  cases hresult with
  | error e => exact .crash
  | ok => exact alike_snapshot database _

theorem alike_start (t : Token) (s : Session Generator S) :
    Alike Eq (s.start tools t) (s.start tools t) := by
  unfold start
  split
  case h_1 e _ _ =>
    refine (alike_prepare htools s.database e).bind ?_
    rintro ⟨err | _, phase, e'⟩ _ rfl
    · exact alike_pure rfl
    · exact Dialogue.alike_interruptHandle.bind fun _ _ _ => alike_pure rfl
  case h_2 => exact alike_pure rfl

end Session

/-! An iteration does not depend on the statistics, and but for its check not on a query's rows. -/

namespace Engine

variable {σ τ G S : Type}

def recount (stats : Stats) (e : Engine G S) : Engine G S := { e with stats }

def Approach.recount (stats : Stats) : Approach G S → Approach G S
  | ended (result, e) => ended (result, e.recount stats)
  | ready pivot query e => ready pivot query (e.recount stats)

theorem alike_draw {α : Type} {d : Draw α} {mid : α → Prop}
    (hd : ∀ {source a source'}, d source = (.ok a, source') → mid a) (stats : Stats)
    (e : Engine G S) :
    Alike (fun r s => mid r.1 ∧ s = (r.1, r.2.recount stats)) (e.draw d)
      ((e.recount stats).draw d) := by
  unfold draw recount
  dsimp only
  split
  case h_1 h => exact .done ⟨hd h, rfl⟩
  case h_2 => exact .crash

theorem alike_approachQuery (tools : Tools G S) (stats : Stats) (e : Engine G S)
    (c : Pivot.Choice) :
    Alike (fun a b => b = a.recount stats) (e.approachQuery tools c)
      ((e.recount stats).approachQuery tools c) := by
  refine (alike_draw (fun _ => trivial) stats e).bind ?_
  rintro ⟨⟨err | query, synthesizer⟩, e'⟩ _ ⟨-, rfl⟩
  · exact alike_pure rfl
  · exact (alike_log _ _).bind fun _ _ _ => alike_pure rfl

theorem alike_approach (tools : Tools G S) (stats : Stats) (e : Engine G S) :
    Alike (fun a b => b = a.recount stats) (e.approach tools)
      ((e.recount stats).approach tools) := by
  refine (Probe.alike_refresh e.profile.database e.snapshot).bind ?_
  rintro ⟨err | tables, snapshot⟩ _ rfl
  · exact alike_pure rfl
  refine (alike_draw (Pivot.alike_choose tables).of_run stats { e with snapshot }).bind ?_
  rintro ⟨⟨_, choice⟩, e'⟩ _ ⟨hchoice, rfl⟩
  refine Alike.bind hchoice ?_
  rintro (err | choice) _ rfl
  · exact alike_pure rfl
  · dsimp only
    split
    · exact (alike_log _ _).bind fun _ _ _ => alike_pure rfl
    · exact alike_approachQuery tools stats e' choice

/-- Its query may be told anything; nothing is asked after it. -/
theorem alike_check (pivot : PivotRow) (query : RenderedQuery) :
    Alike (fun _ _ => True) (Containment.check pivot query).attempt
      (Containment.check pivot query).attempt := by
  unfold Containment.check
  split
  · exact .done trivial
  refine (alike_log _ _).attempt_bind trivial fun _ _ _ => ?_
  refine (alike_log _ _).attempt_bind trivial fun _ _ _ => ?_
  refine (alike_log _ _).attempt_bind trivial fun _ _ _ => ?_
  apply Dialogue.alike_last
  rintro (_ | err | rows)
  · trivial
  · trivial
  change (Containment.judge pivot query rows >>= fun v =>
    (pure (Except.ok v) : Dialogue (Except Fault Verdict))).attempt.Silent
  unfold Containment.judge
  split
  · trivial
  · trivial

/-- The engines after an iteration, for those before it. -/
theorem alike_iterate (tools : Tools G S) (stats : Stats) (e : Engine G S) :
    Alike (fun o o' => ∀ step ∈ o, ∀ step' ∈ o', step'.2 = step.2.recount stats)
      (e.iterate tools).attempt ((e.recount stats).iterate tools).attempt := by
  rw [iterate_eq, iterate_eq]
  refine (alike_approach tools stats e).attempt_bind
    (fun _ hnone => absurd hnone (Option.not_mem_none _)) ?_
  rintro (⟨result, e'⟩ | ⟨pivot, query, e'⟩) _ rfl
  · refine .done ?_
    rintro _ ⟨⟩ _ ⟨⟩
    rfl
  have hconclude (e : Engine G S) : (Approach.ready pivot query e).conclude.attempt =
      (do return (← (Containment.check pivot query).attempt).map e.verdict) :=
    Dialogue.attempt_map _ _
  rw [hconclude, Approach.recount, hconclude]
  refine (alike_check pivot query).bind fun o o' _ => alike_pure ?_
  intro step hstep step' hstep'
  obtain ⟨r, -, rfl⟩ := Option.map_eq_some_iff.1 hstep
  obtain ⟨r', -, rfl⟩ := Option.map_eq_some_iff.1 hstep'
  rw [verdict_snd, verdict_snd]

end Engine

end PivotedQuery
