import PivotedQuery.Proofs.Session.Lawful
/-!
The histories of a session: it is opened, and then its owner makes one call after another, between
which the worker goes on as far as it likes. Main statement: between the calls each phase has what
belongs to it, no call leads back, one start at most succeeds, and a call out of turn is refused.
-/
namespace PivotedQuery

open Dialogue (always_pure always_trivial run_seq run_seq_eq_some_iff run_pure_eq_some_iff)

variable {σ G S : Type}

/-- What the owner may ask for, and that the worker makes so many rounds meanwhile. Tokens may be
cancelled at any time, so a call for the end that reaches the worker in the middle of a round is that
round, in which the token is cancelled, and then the call. The calls that wait for the worker come
back if it needs no more rounds than are given. -/
inductive Operation
  | start (token : Token)
  | wait (rounds : Nat)
  | close (rounds : Nat)
  | run (token : Token) (rounds : Nat)
  | cancel (token : Token)
  | proceed (rounds : Nat)
  deriving DecidableEq

inductive Reply
  | silent
  | started (result : Except SessionError Unit)
  | closed (result : Except SessionError Stats)

def Operation.perform (tools : Tools G S) (s : Session G S) :
    Operation → Dialogue (Option (Reply × Session G S))
  | start t => do
    let (result, s) ← s.start tools t
    return some (.started result, s)
  | wait n => return (← s.wait tools n).map fun s => (.silent, s)
  | close n => return (← s.close tools n).map fun (result, s) => (.closed result, s)
  | run t n => return (← s.run tools t n).map fun (result, s) => (.closed result, s)
  | cancel t => do
    Dialogue.cancelToken t
    return some (.silent, s)
  | proceed n => return some (.silent, ← s.proceed tools n)

structure Moment (σ G S : Type) where
  session : Session G S
  world : World σ

/-- A call that came back. -/
structure Call (σ G S : Type) where
  operation : Operation
  before : Moment σ G S
  reply : Reply
  after : Moment σ G S

namespace Call

variable (tools : Tools G S) (db : Backend σ) (c : Call σ G S)

def Happens : Prop :=
  (c.operation.perform tools c.before.session).run db c.before.world =
    (some (some (c.reply, c.after.session)), c.after.world)

/-- The call starts the worker, by itself or as the first thing that it does. -/
def Starts (t : Token) : Prop :=
  (c.operation = .start t ∨ ∃ n, c.operation = .run t n) ∧
    ∃ s w, (c.before.session.start tools t).run db c.before.world = (some (.ok (), s), w)

end Call

/-- The calls since a session was opened, the last one first, and the session after them. -/
inductive History (tools : Tools G S) (db : Backend σ) : List (Call σ G S) → Moment σ G S → Prop
  | opened {maker : G} {synthesizer : S} {profile : Profile} {entropy : UInt64}
      {s : Session G S} {w w' : World σ}
      (h : (Session.opened maker synthesizer profile entropy).run db w = (some (.ok s), w')) :
      History tools db [] ⟨s, w'⟩
  | call {calls : List (Call σ G S)} {c : Call σ G S} (h : History tools db calls c.before)
      (hc : c.Happens tools db) : History tools db (c :: calls) c.after

/-- The calls that come after a moment, the last one first, and the moment after them. -/
inductive Since (tools : Tools G S) (db : Backend σ) (m₀ : Moment σ G S) :
    List (Call σ G S) → Moment σ G S → Prop
  | now : Since tools db m₀ [] m₀
  | call {calls : List (Call σ G S)} {c : Call σ G S} (h : Since tools db m₀ calls c.before)
      (hc : c.Happens tools db) : Since tools db m₀ (c :: calls) c.after

variable {tools : Tools G S} {db : Backend σ}

theorem Operation.always_perform (op : Operation) {s : Session G S} (hs : s.Lawful) :
    (op.perform tools s).Always fun r => ∀ reply s', r = some (reply, s') →
      s.Follows s' ∧ ∀ result, reply = .closed result → s'.phase = .closed := by
  cases op with
  | start t =>
    apply (Session.always_start tools t hs).bind
    rintro ⟨result, s'⟩ hstart
    refine always_pure ?_
    rintro _ _ ⟨⟩
    exact ⟨hstart.1, nofun⟩
  | wait n =>
    apply (Session.always_wait tools n hs).bind
    intro r hwait
    refine always_pure fun reply s' h => ?_
    obtain ⟨s₁, rfl, h⟩ := Option.map_eq_some_iff.1 h
    cases h
    exact ⟨(hwait _ rfl).1, nofun⟩
  | close n =>
    apply (Session.always_close tools n hs).bind
    intro r hclose
    refine always_pure fun reply s' h => ?_
    obtain ⟨⟨result, s₁⟩, rfl, h⟩ := Option.map_eq_some_iff.1 h
    cases h
    exact (hclose _ _ rfl).imp_right fun hclosed _ _ => hclosed
  | run t n =>
    apply (Session.always_run tools t n hs).bind
    intro r hrun
    refine always_pure fun reply s' h => ?_
    obtain ⟨⟨result, s₁⟩, rfl, h⟩ := Option.map_eq_some_iff.1 h
    cases h
    exact (hrun _ _ rfl).imp_right fun hclosed _ _ => hclosed
  | cancel t =>
    refine (always_trivial _).bind fun _ _ => always_pure ?_
    rintro _ _ ⟨⟩
    exact ⟨hs.refl, nofun⟩
  | proceed n =>
    apply (Session.always_proceed tools n hs).bind
    intro s₁ hproceed
    refine always_pure ?_
    rintro _ _ ⟨⟩
    exact ⟨hproceed, nofun⟩

namespace Call

variable {c : Call σ G S} {t : Token} {n : Nat}

theorem run_closed_eq_some {d : Dialogue (Option (Except SessionError Stats × Session G S))}
    {w w' : World σ} {reply : Reply} {s' : Session G S}
    (h : (do return (← d).map fun (result, s) => (.closed result, s) :
      Dialogue (Option (Reply × Session G S))).run db w = (some (some (reply, s')), w')) :
    ∃ result, reply = .closed result ∧ d.run db w = (some (some (result, s')), w') := by
  obtain ⟨r, w₁, hd, hreply⟩ := run_seq_eq_some_iff.1 h
  obtain ⟨hmap, rfl⟩ := run_pure_eq_some_iff.1 hreply
  obtain ⟨⟨result, s⟩, rfl, hpair⟩ := Option.map_eq_some_iff.1 hmap
  cases hpair
  exact ⟨result, rfl, hd⟩

theorem Happens.run_close (hc : c.Happens tools db) (hop : c.operation = .close n) :
    ∃ result, c.reply = .closed result ∧ (c.before.session.close tools n).run db c.before.world =
      (some (some (result, c.after.session)), c.after.world) := by
  unfold Happens at hc
  rw [hop] at hc
  exact run_closed_eq_some hc

theorem Happens.run_run (hc : c.Happens tools db) (hop : c.operation = .run t n) :
    ∃ result, c.reply = .closed result ∧ (c.before.session.run tools t n).run db c.before.world =
      (some (some (result, c.after.session)), c.after.world) := by
  unfold Happens at hc
  rw [hop] at hc
  exact run_closed_eq_some hc

theorem Happens.follows (h : c.Happens tools db) (hs : c.before.session.Lawful) :
    c.before.session.Follows c.after.session :=
  ((c.operation.always_perform hs).of_run h _ _ rfl).1

/-- Only closing a session is replied to in this way. -/
theorem Happens.phase_eq_closed (h : c.Happens tools db) (hs : c.before.session.Lawful)
    {result : Except SessionError Stats} (hreply : c.reply = .closed result) :
    c.after.session.phase = .closed :=
  ((c.operation.always_perform hs).of_run h _ _ rfl).2 result hreply

/-- A call that starts the worker finds the session idle and leaves it started. -/
theorem Starts.follows (hstarts : c.Starts tools db t) (h : c.Happens tools db)
    (hs : c.before.session.Lawful) : c.before.session.phase = .idle ∧
      c.after.session.phase ≠ .idle ∧ c.after.session.token = some t := by
  obtain ⟨hoperation, s₁, w₁, hstart⟩ := hstarts
  obtain ⟨hfollows, hidle, hphase, htoken⟩ := (Session.always_start tools t hs).of_run hstart
  have hlater : s₁.Follows c.after.session := by
    obtain hop | ⟨n, hop⟩ := hoperation
    · unfold Happens at h
      rw [hop] at h
      obtain ⟨_, _, hstart', hreply⟩ := run_seq_eq_some_iff.1 h
      rw [hstart] at hstart'
      cases hstart'
      obtain ⟨hpair, -⟩ := run_pure_eq_some_iff.1 hreply
      rw [← (Prod.mk.inj (Option.some.inj hpair)).2]
      exact hfollows.lawful.refl
    · obtain ⟨result, -, hrun⟩ := h.run_run hop
      obtain ⟨_, _, hstart', hrest⟩ := run_seq_eq_some_iff.1 hrun
      rw [hstart] at hstart'
      cases hstart'
      exact ((Session.always_wait_close tools n hfollows.lawful).of_run hrest _ _ rfl).1
  refine ⟨hidle, fun hagain => ?_, hlater.token_eq t htoken⟩
  have hle := hlater.rank_le
  rw [hphase, hagain] at hle
  cases hle

end Call

namespace History

variable {calls : List (Call σ G S)} {m : Moment σ G S}

theorem lawful (h : History tools db calls m) : m.session.Lawful := by
  induction h with
  | opened h => exact (Session.always_opened _ _ _ _).of_run h _ rfl
  | call h hc ih => exact (hc.follows ih).lawful

/-- Each call finds a lawful session, and all that comes later follows from what it leaves. -/
theorem follows_of_mem (h : History tools db calls m) {c : Call σ G S} (hmem : c ∈ calls) :
    c.Happens tools db ∧ c.before.session.Lawful ∧ c.after.session.Follows m.session := by
  induction h with
  | opened h => cases hmem
  | call h hc ih =>
    rcases List.mem_cons.1 hmem with rfl | hmem
    · exact ⟨hc, h.lawful, (hc.follows h.lawful).lawful.refl⟩
    · obtain ⟨hc', hlawful, hfollows⟩ := ih hmem
      exact ⟨hc', hlawful, hfollows.trans (hc.follows h.lawful)⟩

theorem pairwise_follows (h : History tools db calls m) :
    calls.Pairwise fun later earlier => earlier.after.session.Follows later.before.session := by
  induction h with
  | opened h => exact .nil
  | call h hc ih => exact ih.cons fun c hmem => (h.follows_of_mem hmem).2.2

end History

/-- What belongs to a session in each phase. -/
def Session.Fits (s : Session G S) : Prop :=
  match s.phase with
  | .idle => s.engine.isSome ∧ s.worker = none ∧ s.token = none ∧ s.outcome = none
  | .bootstrapping | .snapshotting => s.engine.isSome ∧ s.worker = none ∧ s.outcome = none
  | .iterating => s.worker.isSome ∧ s.token.isSome ∧ s.engine = none
  | .draining => s.worker = none ∧ s.outcome.isSome ∧
      (s.engine = none ↔ s.outcome = some (.error .workerPanicked))
  | .closed => s.engine = none ∧ s.worker = none ∧ s.outcome = none

theorem Session.Lawful.fits {s : Session G S} (hs : s.Lawful) : s.Fits := by
  cases hs with
  | idle h => exact ⟨rfl, rfl, rfl, rfl⟩
  | failed hphase h =>
    obtain rfl | rfl := hphase
    · exact ⟨rfl, rfl, rfl⟩
    · exact ⟨rfl, rfl, rfl⟩
  | iterating h => exact ⟨rfl, rfl, rfl⟩
  | drained hresult h =>
    exact ⟨rfl, rfl, nofun, fun h => absurd (Option.some.inj h) hresult⟩
  | lost => exact ⟨rfl, rfl, fun _ => rfl, fun _ => rfl⟩
  | closed => exact ⟨rfl, rfl, rfl⟩

/-- Whatever its owner calls for and whatever fails on the way. -/
theorem History.lifecycle {calls : List (Call σ G S)} {m : Moment σ G S}
    (h : History tools db calls m) :
    m.session.Fits ∧
    (∀ c ∈ calls, c.before.session.phase.rank ≤ c.after.session.phase.rank ∧
      c.after.session.phase.rank ≤ m.session.phase.rank) ∧
    (∀ c ∈ calls, ∀ t, c.Starts tools db t → c.before.session.phase = .idle) ∧
    (calls.Pairwise fun later earlier => ∀ t t', earlier.Starts tools db t →
      ¬ later.Starts tools db t') ∧
    (m.session.phase ≠ .idle → ∀ t, m.session.start tools t =
      pure (.error (.lifecycle "start" m.session.phase), m.session)) ∧
    (m.session.phase = .closed → ∀ n, m.session.close tools n =
      pure (some (.error (.lifecycle "close" .closed), m.session))) ∧
    (m.session.worker = none → ∀ n, m.session.wait tools n = pure (some m.session)) := by
  refine ⟨h.lawful.fits, ?_, ?_, ?_, fun hphase t => Session.start_eq_of_ne_idle tools t hphase,
    fun hphase n => Session.close_eq_of_closed tools n hphase,
    fun hworker n => Session.wait_eq_of_no_worker tools n hworker⟩
  · intro c hmem
    obtain ⟨hc, hlawful, hfollows⟩ := h.follows_of_mem hmem
    exact ⟨(hc.follows hlawful).rank_le, hfollows.rank_le⟩
  · intro c hmem t hstarts
    obtain ⟨hc, hlawful, -⟩ := h.follows_of_mem hmem
    exact (hstarts.follows hc hlawful).1
  · apply h.pairwise_follows.imp_of_mem
    intro later earlier hlater hearlier hfollows t t' hstarts hstarts'
    obtain ⟨hc, hlawful, -⟩ := h.follows_of_mem hearlier
    obtain ⟨hc', hlawful', -⟩ := h.follows_of_mem hlater
    -- the later call finds a session that is idle, but the earlier one left it past that
    have hidle := (hstarts'.follows hc' hlawful').1
    obtain ⟨-, hstarted, -⟩ := hstarts.follows hc hlawful
    have hle := hfollows.rank_le
    rw [hidle] at hle
    cases hphase : earlier.after.session.phase with
    | idle => exact hstarted hphase
    | _ =>
      rw [hphase] at hle
      cases hle

/-- The call for this operation at this moment, if it comes back. -/
def Call.of? (tools : Tools G S) (db : Backend σ) (op : Operation) (m : Moment σ G S) :
    Option (Call σ G S) :=
  match (op.perform tools m.session).run db m.world with
  | (some (some (reply, session)), world) => some ⟨op, m, reply, ⟨session, world⟩⟩
  | _ => none

theorem Call.happens_of_of? {op : Operation} {m : Moment σ G S} {c : Call σ G S}
    (h : Call.of? tools db op m = some c) : c.before = m ∧ c.Happens tools db := by
  unfold Call.of? at h
  split at h
  case h_1 hrun =>
    cases h
    exact ⟨rfl, hrun⟩
  case h_2 => cases h

namespace History

/-- The calls for these operations after earlier ones, if all of them come back. -/
def calling (tools : Tools G S) (db : Backend σ) : List Operation →
    List (Call σ G S) → Moment σ G S → Option (List (Call σ G S) × Moment σ G S)
  | [], calls, m => some (calls, m)
  | op :: ops, calls, m => do
    let c ← Call.of? tools db op m
    calling tools db ops (c :: calls) c.after

theorem since_of_calling {ops : List Operation} {calls calls' : List (Call σ G S)}
    {m₀ m m' : Moment σ G S} (h : Since tools db m₀ calls m)
    (hcalling : calling tools db ops calls m = some (calls', m')) :
    Since tools db m₀ calls' m' := by
  induction ops generalizing calls m with
  | nil =>
    cases hcalling
    exact h
  | cons op ops ih =>
    obtain ⟨c, hc, hrest⟩ := Option.bind_eq_some_iff.1 hcalling
    obtain ⟨rfl, hhappens⟩ := Call.happens_of_of? hc
    exact ih (h.call hhappens) hrest

theorem of_since {calls : List (Call σ G S)} {m₀ m : Moment σ G S} (h₀ : History tools db [] m₀)
    (h : Since tools db m₀ calls m) : History tools db calls m := by
  induction h with
  | now => exact h₀
  | call _ hc ih => exact ih.call hc

/-- The history of a session for which these operations are asked, in a new world. -/
def of? (tools : Tools G S) (db : Backend σ) (state : σ) (maker : G) (synthesizer : S)
    (profile : Profile) (ops : List Operation) : Option (List (Call σ G S) × Moment σ G S) :=
  match (Session.opened maker synthesizer profile 0).run db { state } with
  | (some (.ok s), w) => calling tools db ops [] ⟨s, w⟩
  | _ => none

theorem since_of_of? {state : σ} {maker : G} {synthesizer : S} {profile : Profile}
    {ops : List Operation} {calls : List (Call σ G S)} {m : Moment σ G S}
    (h : of? tools db state maker synthesizer profile ops = some (calls, m)) :
    ∃ s w, (Session.opened maker synthesizer profile 0).run db { state } = (some (.ok s), w) ∧
      Since tools db ⟨s, w⟩ calls m := by
  unfold of? at h
  split at h
  case h_1 s w hopened => exact ⟨s, w, hopened, since_of_calling .now h⟩
  case h_2 => cases h

theorem of_of? {state : σ} {maker : G} {synthesizer : S} {profile : Profile} {ops : List Operation}
    {calls : List (Call σ G S)} {m : Moment σ G S}
    (h : of? tools db state maker synthesizer profile ops = some (calls, m)) :
    History tools db calls m := by
  obtain ⟨s, w, hopened, hsince⟩ := since_of_of? h
  exact of_since (.opened hopened) hsince

theorem exists_of_any {state : σ} {maker : G} {synthesizer : S} {profile : Profile}
    {ops : List Operation} {check : List (Call σ G S) × Moment σ G S → Bool}
    (h : (of? tools db state maker synthesizer profile ops).any check = true) :
    ∃ calls m, History tools db calls m ∧ check (calls, m) = true := by
  obtain ⟨⟨calls, m⟩, hof, hcheck⟩ := (Option.any_eq_true _ _).1 h
  exact ⟨calls, m, of_of? hof, hcheck⟩

end History

/-- Makes no statements, and a query that it does not fit to the pivot. -/
def bluntTools : Tools Unit Unit where
  maker := {
    createTable := return .error (.noTable "table")
    createIndex _ := return .error (.noTable "index")
    insert table := return .error (.noColumns table.name.name)
    reload _ g := return (.ok (), g)
    tables _ := [] }
  synthesizer.synthesize _ _ pivot s :=
    return (.ok ⟨"SELECT a FROM t WHERE a <> a", pivot.entries.map (·.1)⟩, s)

def loneTable : Table := ⟨⟨"t"⟩, [⟨⟨"a"⟩, "INTEGER", true⟩], []⟩

/-- Holds one table of one row. The database cannot be dropped a second time. -/
def loneBackend : Backend Nat where
  answer w
    | .listTables _ => (⟨some (.ok [loneTable.name]), [], []⟩, w.state)
    | .listColumns _ _ => (⟨some (.ok loneTable.columns), [], []⟩, w.state)
    | .select sql =>
      let rows := if sql = Pivot.rowSql loneTable then [[⟨.integer 7, ⟨"INTEGER"⟩⟩]] else []
      (⟨some (.ok rows), [], []⟩, w.state)
    | .dropDatabase name =>
      let reply := if w.state = 0 then .ok () else .error (.failed name "locked")
      (⟨some reply, [], []⟩, w.state + 1)
    | .interruptHandle => (⟨some (), [], []⟩, w.state)
    | .listIndexes _ _ => (⟨some (.ok []), [], []⟩, w.state)
    | .exec _ | .createDatabase _ | .useDatabase _ | .seedRandom _ =>
      (⟨some (.ok ()), [], []⟩, w.state)

def briefProfile : Profile where
  seed := some 1
  population := { maxTables := 1, maxIndexes := 0 }

/-- In the second of its calls the worker finds a mismatch. -/
theorem History.lifecycle_lone : ∃ calls m, History bluntTools loneBackend calls m ∧
    calls.length = 3 ∧ m.session.phase = .closed ∧ m.session.Fits ∧
    (∀ c ∈ calls, c.before.session.phase.rank ≤ c.after.session.phase.rank ∧
      c.after.session.phase.rank ≤ m.session.phase.rank) ∧
    m.session.start bluntTools {} = pure (.error (.lifecycle "start" m.session.phase), m.session) ∧
    m.session.close bluntTools 1 = pure (some (.error (.lifecycle "close" .closed), m.session)) := by
  have hplayed : ((of? bluntTools loneBackend 0 () () briefProfile
      [.start {}, .wait 2, .close 1]).any fun past =>
        past.1.length = 3 ∧ past.2.session.phase = .closed) = true := by decide +kernel
  obtain ⟨calls, m, h, hlast⟩ := exists_of_any hplayed
  obtain ⟨hlength, hphase⟩ := of_decide_eq_true hlast
  obtain ⟨hfits, hranks, -, -, hstart, hclose, -⟩ := h.lifecycle
  refine ⟨calls, m, h, hlength, hphase, hfits, hranks, hstart ?_ {}, hclose hphase 1⟩
  rw [hphase]
  exact nofun

end PivotedQuery
