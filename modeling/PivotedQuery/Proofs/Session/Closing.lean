import PivotedQuery.Proofs.Session.Lifecycle
import PivotedQuery.Proofs.Session.Worker
/-!
How a session ends. Its worker sees that it is cancelled and gives the engine back, unless it has
panicked, and then the database is reset once. Main statement: closing comes to an end whatever fails
in it, and of the errors it meets the worker's own one counts first.
-/
namespace PivotedQuery

open Dialogue (call run_seq run_seq_eq_some_iff run_attempt run_cancelToken requests_of_run_call
  mem_cancelled_of_run Reaches reaches_pure reaches_call reaches_log)

variable {σ G S : Type} {db : Backend σ} {w w' : World σ}

/-! One reset of the database. -/

/-- The requests of a reset that begins in one world, how it ends, and the world after it. -/
inductive Resets (db : Backend σ) (name : String) (w : World σ) :
    List Request → Except ExecutionError Unit → World σ → Prop
  | notDropped {err : ExecutionError} {w₁ : World σ}
      (h : (call (.dropDatabase name)).run db w = (some (.error err), w₁)) :
      Resets db name w [.dropDatabase name] (.error err) w₁
  | notCreated {err : ExecutionError} {w₁ w₂ : World σ}
      (hdrop : (call (.dropDatabase name)).run db w = (some (.ok ()), w₁))
      (h : (call (.createDatabase name)).run db w₁ = (some (.error err), w₂)) :
      Resets db name w [.dropDatabase name, .createDatabase name] (.error err) w₂
  | notUsed {err : ExecutionError} {w₁ w₂ w₃ : World σ}
      (hdrop : (call (.dropDatabase name)).run db w = (some (.ok ()), w₁))
      (hcreate : (call (.createDatabase name)).run db w₁ = (some (.ok ()), w₂))
      (h : (call (.useDatabase name)).run db w₂ = (some (.error err), w₃)) :
      Resets db name w [.dropDatabase name, .createDatabase name, .useDatabase name] (.error err) w₃
  | done {w₁ w₂ w₃ : World σ}
      (hdrop : (call (.dropDatabase name)).run db w = (some (.ok ()), w₁))
      (hcreate : (call (.createDatabase name)).run db w₁ = (some (.ok ()), w₂))
      (huse : (call (.useDatabase name)).run db w₂ = (some (.ok ()), w₃)) :
      Resets db name w [.dropDatabase name, .createDatabase name, .useDatabase name] (.ok ())
        (w₃.noted (.databaseReset name))

/-- Each request of a reset is answered, though perhaps by an error. -/
structure Backend.AnswersResets (db : Backend σ) (name : String) : Prop where
  drop : db.Replies (.dropDatabase name) fun _ => True
  create : db.Replies (.createDatabase name) fun _ => True
  use : db.Replies (.useDatabase name) fun _ => True

theorem Resets.requests_eq {name : String} {asked : List Request}
    {reset : Except ExecutionError Unit} (h : Resets db name w asked reset w') :
    w'.requests.toList = w.requests.toList ++ asked := by
  cases h with
  | notDropped h => exact requests_of_run_call h
  | notCreated hdrop h =>
    simp [requests_of_run_call h, requests_of_run_call hdrop]
  | notUsed hdrop hcreate h =>
    simp [requests_of_run_call h, requests_of_run_call hcreate,
      requests_of_run_call hdrop]
  | done hdrop hcreate huse =>
    simp [World.noted, requests_of_run_call huse, requests_of_run_call hcreate,
      requests_of_run_call hdrop]

namespace WorkingDatabase

theorem reaches_reset {d : WorkingDatabase} (h : db.AnswersResets d.name) :
    Reaches db d.reset fun _ => True := by
  apply (reaches_call h.drop).bind
  rintro (err | _) -
  · exact reaches_pure trivial
  apply (reaches_call h.create).bind
  rintro (err | _) -
  · exact reaches_pure trivial
  apply (reaches_call h.use).bind
  rintro (err | _) -
  · exact reaches_pure trivial
  · exact (reaches_log db _).bind fun _ _ => reaches_pure trivial

theorem resets_of_run_reset {d : WorkingDatabase} {reset : Except ExecutionError Unit}
    (h : d.reset.run db w = (some reset, w')) : ∃ asked, Resets db d.name w asked reset w' := by
  obtain ⟨dropped, w₁, hdrop, h⟩ := run_seq_eq_some_iff.1 h
  cases dropped with
  | error err =>
    cases h
    exact ⟨_, .notDropped hdrop⟩
  | ok =>
    obtain ⟨created, w₂, hcreate, h⟩ := run_seq_eq_some_iff.1 h
    cases created with
    | error err =>
      cases h
      exact ⟨_, .notCreated hdrop hcreate⟩
    | ok =>
      obtain ⟨used, w₃, huse, h⟩ := run_seq_eq_some_iff.1 h
      cases used with
      | error err =>
        cases h
        exact ⟨_, .notUsed hdrop hcreate huse⟩
      | ok =>
        cases h
        exact ⟨_, .done hdrop hcreate huse⟩

end WorkingDatabase

/-! The end of the worker. -/

/-- The session after its worker has looked at its token, which is cancelled, and has ended. -/
def Session.joined (s : Session G S) : Session G S :=
  match s.worker with
  | none => s
  | some (.running _ e) =>
    { s with phase := .draining, worker := none, engine := some e, outcome := some (.ok ()) }
  | some (.ended result e) =>
    { s with phase := .draining, worker := none, engine := some e, outcome := some result }
  | some .panicked =>
    { s with phase := .draining, worker := none, outcome := some (.error .workerPanicked) }

namespace Session

variable {s : Session G S}

/-- The mismatch with which the worker ends. -/
def found? (s : Session G S) : Option Mismatch :=
  match s.joined.outcome with
  | some (.error (.mismatch m)) => some m
  | _ => none

theorem found?_eq_some_iff {found : Mismatch} :
    s.found? = some found ↔ s.joined.outcome = some (.error (.mismatch found)) := by
  unfold found?
  split
  case h_1 m h => rw [h, Option.some.injEq, Option.some.injEq, Except.error.injEq,
    SessionError.mismatch.injEq]
  case h_2 h => exact ⟨nofun, fun hfound => (h _ hfound).elim⟩

theorem run_wait_of_cancelled (db : Backend σ) (tools : Tools G S) (n : Nat) (hs : s.Lawful)
    (hcancelled : ∀ t, s.token = some t → t ∈ w.cancelled) :
    ∃ w', (s.wait tools (n + 1)).run db w = (some (some s.joined), w') ∧
      w'.requests = w.requests := by
  cases hs with
  | @iterating seed database worker t h =>
    cases worker with
    | running t' e =>
      obtain ⟨rfl, -⟩ := h
      have hseen : db.sees t' w = true := Backend.sees_of_mem (hcancelled t' rfl)
      -- the first of the rounds is the last
      have hwork : (e.work tools t' (n + 1)).run db w = _ := Engine.run_work_of_sees hseen n
      have hproceed : ((Worker.running t' e).proceed tools (n + 1)).run db w = _ :=
        run_seq db (run_attempt db _ w)
      rw [hwork] at hproceed
      exact ⟨_, run_seq db hproceed, rfl⟩
    | ended result e => exact ⟨w, rfl, rfl⟩
    | panicked => exact ⟨w, rfl, rfl⟩
  | _ => exact ⟨w, rfl, rfl⟩

theorem run_halt (db : Backend σ) (tools : Tools G S) (n : Nat) (hs : s.Lawful) (w : World σ) :
    ∃ w', (s.halt tools (n + 1)).run db w = (some (some s.joined), w') ∧
      w'.requests = w.requests ∧ ∀ t, s.token = some t → t ∈ w'.cancelled := by
  unfold halt
  cases htoken : s.token with
  | none =>
    have hcancelled (t : Token) (ht : s.token = some t) : t ∈ w.cancelled := by simp [htoken] at ht
    obtain ⟨w', hwait, hrequests⟩ := run_wait_of_cancelled db tools n hs hcancelled
    exact ⟨w', hwait, hrequests, nofun⟩
  | some t =>
    let w₁ : World σ := { w with cancelled := t :: w.cancelled }
    have hcancelled (u : Token) (hu : s.token = some u) : u ∈ w₁.cancelled := by
      rw [htoken] at hu
      cases hu
      exact List.mem_cons_self
    obtain ⟨w', hwait, hrequests⟩ := run_wait_of_cancelled db tools n hs hcancelled
    refine ⟨w', (run_seq db (run_cancelToken db t w)).trans hwait, hrequests, ?_⟩
    rintro _ ⟨⟩
    exact mem_cancelled_of_run hwait List.mem_cons_self

/-- Only a panic keeps the engine from coming back. -/
theorem Lawful.joined_cases (hs : s.Lawful) (hopen : s.phase ≠ .closed) :
    (s.joined.engine = none ∧ s.joined.outcome = some (.error .workerPanicked)) ∨
      ∃ e, s.joined.engine = some e ∧ e.Counted ∧
        (s.phase.rank < Phase.iterating.rank → e.stats = {}) ∧
        s.joined.outcome ≠ some (.error .workerPanicked) := by
  cases hs with
  | @idle seed database e h => exact .inr ⟨e, rfl, fun _ => h, fun _ => h, nofun⟩
  | @failed phase seed database e hphase h =>
    exact .inr ⟨e, rfl, fun _ => h, fun _ => h, nofun⟩
  | @iterating seed database worker t h =>
    cases worker with
    | running t' e => exact .inr ⟨e, rfl, h.2, nofun, nofun⟩
    | ended result e =>
      exact .inr ⟨e, rfl, h.2, nofun, fun hpanic => h.1 (Option.some.inj hpanic)⟩
    | panicked => exact .inl ⟨rfl, rfl⟩
  | @drained seed database e t result hresult h =>
    exact .inr ⟨e, rfl, h, nofun, fun hpanic => hresult (Option.some.inj hpanic)⟩
  | lost => exact .inl ⟨rfl, rfl⟩
  | closed => exact absurd rfl hopen

theorem joined_database (s : Session G S) : s.joined.database = s.database := by
  unfold joined
  split <;> rfl

theorem result_of_error {outcome : Option (Except SessionError Unit)} {err : SessionError}
    (h : outcome = some (.error err)) (reset : Except ExecutionError Unit) (stats : Stats) :
    result outcome reset stats = .error err := by
  rw [h]
  rfl

theorem result_of_no_error {outcome : Option (Except SessionError Unit)}
    (h : ∀ err, outcome ≠ some (.error err)) (reset : Except ExecutionError Unit) (stats : Stats) :
    result outcome reset stats = match reset with
      | .error e => .error (.fault (.execution e))
      | .ok () => .ok stats := by
  match outcome with
  | none => cases reset <;> rfl
  | some (.ok ()) => cases reset <;> rfl
  | some (.error err) => exact absurd rfl (h err)

theorem run_finish_of_no_engine (h : s.engine = none) : s.finish.run db w =
    (some (result s.outcome (.ok ()) s.stats, s.released), w.noted (.closed s.stats)) := by
  unfold finish
  rw [h]
  rfl

theorem run_finish_of_reset {e : Engine G S} {reset : Except ExecutionError Unit}
    (h : s.engine = some e) (hreset : s.database.reset.run db w = (some reset, w')) :
    s.finish.run db w = (some (result s.outcome reset s.stats, s.released),
      w'.noted (.closed s.stats)) := by
  unfold finish
  rw [h]
  exact run_seq db hreset

/-- What closing an open session makes of it and what it hands out. -/
structure Closes (db : Backend σ) (s : Session G S) (w : World σ)
    (result : Except SessionError Stats) (s' : Session G S) (w' : World σ) : Prop where
  phase_eq : s'.phase = .closed
  engine_eq : s'.engine = none
  result_of_error : ∀ err, s.joined.outcome = some (.error err) → result = .error err
  asks_nothing : s.joined.outcome = some (.error .workerPanicked) → w'.requests = w.requests
  /-- The worker's ending comes before the reset and asks for nothing, so all that is asked for
  belongs to the reset. -/
  resets_once : s.joined.outcome ≠ some (.error .workerPanicked) → ∃ w₁ asked reset w₂,
    w₁.requests = w.requests ∧ Resets db s.database.name w₁ asked reset w₂ ∧
    w' = w₂.noted (.closed s.joined.stats) ∧
    w'.requests.toList = w.requests.toList ++ asked ∧
    ((∀ err, s.joined.outcome ≠ some (.error err)) → result = match reset with
      | .error e => .error (.fault (.execution e))
      | .ok () => .ok s.joined.stats)
  stats_eq : s.joined.stats.iterations = 0 ∨ s.phase.rank < Phase.iterating.rank →
    s.joined.stats = {}

theorem closes (tools : Tools G S) (n : Nat) (hs : s.Lawful) (hopen : s.phase ≠ .closed)
    (hdb : db.AnswersResets s.database.name) (w : World σ) : ∃ result s' w',
      (s.close tools (n + 1)).run db w = (some (some (result, s')), w') ∧
      s.Closes db w result s' w' ∧ ∀ t, s.token = some t → t ∈ w'.cancelled := by
  obtain ⟨w₁, hhalt, hrequests, hcancelled⟩ := run_halt db tools n hs w
  rw [close_eq tools _ hopen, run_seq db hhalt]
  obtain ⟨hengine, hpanic⟩ | ⟨e, hengine, hcounted, hearly, hcalm⟩ := hs.joined_cases hopen
  · refine ⟨_, _, _, run_seq db (run_finish_of_no_engine hengine), ?_, hcancelled⟩
    exact {
      phase_eq := rfl
      engine_eq := rfl
      result_of_error := fun err h => result_of_error h _ _
      asks_nothing := fun _ => hrequests
      resets_once := fun h => absurd hpanic h
      stats_eq := fun _ => by simp [stats, hengine] }
  · obtain ⟨reset, w₂, hreset, -⟩ := WorkingDatabase.reaches_reset hdb w₁
    obtain ⟨asked, hresets⟩ := WorkingDatabase.resets_of_run_reset hreset
    have hdatabase : s.joined.database.reset.run db w₁ = (some reset, w₂) := by
      rw [joined_database]
      exact hreset
    have hstats : s.joined.stats = e.stats := by simp [stats, hengine]
    refine ⟨_, _, _, run_seq db (run_finish_of_reset hengine hdatabase), ?_, fun t ht =>
      mem_cancelled_of_run hreset (hcancelled t ht)⟩
    exact {
      phase_eq := rfl
      engine_eq := rfl
      result_of_error := fun err h => result_of_error h _ _
      asks_nothing := fun h => absurd h hcalm
      resets_once := fun _ => ⟨w₁, asked, reset, w₂, hrequests, hresets, rfl,
        hrequests ▸ hresets.requests_eq, fun h => result_of_no_error h _ _⟩
      stats_eq := fun h => by
        rw [hstats] at h ⊢
        exact h.elim hcounted hearly }

end Session

/-- From every moment between two calls, if the requests of a reset are answered, however. -/
theorem History.closing {tools : Tools G S} {calls : List (Call σ G S)} {m : Moment σ G S}
    (h : History tools db calls m) (hopen : m.session.phase ≠ .closed)
    (hdb : db.AnswersResets m.session.database.name) (n : Nat) : ∃ result s' w',
      (m.session.close tools (n + 1)).run db m.world = (some (some (result, s')), w') ∧
      m.session.Closes db m.world result s' w' ∧
      ∀ c ∈ calls, ∀ t, c.Starts tools db t → t ∈ w'.cancelled := by
  obtain ⟨result, s', w', hclose, hcloses, hcancelled⟩ :=
    Session.closes tools n h.lawful hopen hdb m.world
  refine ⟨result, s', w', hclose, hcloses, fun c hmem t hstarts => hcancelled t ?_⟩
  obtain ⟨hc, hlawful, hfollows⟩ := h.follows_of_mem hmem
  exact hfollows.token_eq t (hstarts.follows hc hlawful).2.2

/-- The worker finds a mismatch, and the reset fails as well. -/
theorem History.closing_lone : ∃ calls m found result s' w',
    History bluntTools loneBackend calls m ∧ m.session.phase ≠ .closed ∧
    loneBackend.AnswersResets m.session.database.name ∧
    (m.session.close bluntTools 1).run loneBackend m.world = (some (some (result, s')), w') ∧
    m.session.Closes loneBackend m.world result s' w' ∧ result = .error (.mismatch found) := by
  have hplayed : ((of? bluntTools loneBackend 0 () () briefProfile
      [.start {}, .proceed 2]).any fun past =>
        past.2.session.phase ≠ .closed ∧ past.2.session.found?.isSome) = true := by
    decide +kernel
  obtain ⟨calls, m, h, hlast⟩ := exists_of_any hplayed
  obtain ⟨hopen, hsome⟩ := of_decide_eq_true hlast
  obtain ⟨found, hfound⟩ := Option.isSome_iff_exists.1 hsome
  have hdb : loneBackend.AnswersResets m.session.database.name :=
    ⟨fun w => ⟨_, rfl, trivial⟩, fun w => ⟨_, rfl, trivial⟩, fun w => ⟨_, rfl, trivial⟩⟩
  obtain ⟨result, s', w', hclose, hcloses, -⟩ := h.closing hopen hdb 0
  exact ⟨calls, m, found, result, s', w', h, hopen, hdb, hclose, hcloses,
    hcloses.result_of_error _ (Session.found?_eq_some_iff.1 hfound)⟩

end PivotedQuery
