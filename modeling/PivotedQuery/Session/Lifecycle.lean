import PivotedQuery.Random.ChaCha
import PivotedQuery.Session.Engine
/-!
A session from its opening to its end. One worker at most is ever started; closing gives up the
engine, resets the working database and hands out the worker's error before anything else.
-/
namespace PivotedQuery

inductive Worker (G S : Type)
  | running (token : Token) (engine : Engine G S)
  | ended (result : Except SessionError Unit) (engine : Engine G S)
  | panicked

/-- The worker after at most so many rounds; one that is not running stays as it is. -/
def Worker.proceed {G S : Type} (tools : Tools G S) (rounds : Nat) :
    Worker G S → Dialogue (Worker G S)
  | running token e => do
    match ← (e.work tools token rounds).attempt with
    | none => return panicked
    | some (none, e) => return running token e
    | some (some result, e) => return ended result e
  | w => return w

structure Session (G S : Type) where
  phase : Phase := .idle
  seed : UInt64
  database : WorkingDatabase
  /-- Held unless a worker has it or the session is closed. -/
  engine : Option (Engine G S)
  worker : Option (Worker G S) := none
  token : Option Token := none
  outcome : Option (Except SessionError Unit) := none

namespace Session

variable {G S : Type}

/-- An open session, for a profile that is valid and a database that takes the seed. -/
def opened (maker : G) (synthesizer : S) (profile : Profile) (entropy : UInt64) :
    Dialogue (Except SessionError (Session G S)) := do
  match profile.validate with
  | .error e => return .error (.fault (.profile e))
  | .ok () =>
    let seed := profile.seed.getD entropy
    Dialogue.log (.opened profile.dataSource seed)
    match ← Dialogue.call (.seedRandom seed) with
    | .error e => return .error (.fault (.execution e))
    | .ok () =>
      let engine := ⟨⟨maker, .seeded seed⟩, synthesizer, [], profile, {}⟩
      return .ok { seed, database := profile.workingDatabase, engine := some engine }

/-- The result of getting an engine ready, the phase in which that ended, and the engine. -/
abbrev Preparation (G S : Type) := Except SessionError Unit × Phase × Engine G S

def snapshot (database : WorkingDatabase) (e : Engine G S) :
    Dialogue (Preparation G S) := do
  let (result, snapshot) ← Probe.refresh database.name e.snapshot
  let e := { e with snapshot }
  match result with
  | .error err => return (.error (.fault (.schema err)), .snapshotting, e)
  | .ok tables =>
    Dialogue.log (.snapshotTaken tables.length)
    return (.ok (), .snapshotting, e)

def prepare (tools : Tools G S) (database : WorkingDatabase) (e : Engine G S) :
    Dialogue (Preparation G S) := do
  match ← database.reset with
  | .error err => return (.error (.fault (.execution err)), .bootstrapping, e)
  | .ok () =>
    match ← database.populate tools.maker e.bench with
    | (.error _, _) => .crash
    | (.ok _, bench) => snapshot database { e with bench }

def misuse {α : Type} (s : Session G S) (action : String) : Except SessionError α :=
  .error (.lifecycle action s.phase)

/-- A session whose start fails stays in the phase that failed. -/
def start (tools : Tools G S) (token : Token) (s : Session G S) :
    Dialogue (Except SessionError Unit × Session G S) :=
  match s.phase, s.engine with
  | .idle, some e => do
    match ← prepare tools s.database e with
    | (.error err, phase, e) => return (.error err, { s with phase, engine := some e })
    | (.ok (), _, e) =>
      Dialogue.call .interruptHandle
      return (.ok (), { s with
        phase := .iterating, engine := none, worker := some (.running token e), token := some token })
  | _, _ => return (s.misuse "start", s)

/-- The session after so many rounds of its worker, which nobody has to wait for. -/
def proceed (tools : Tools G S) (rounds : Nat) (s : Session G S) : Dialogue (Session G S) := do
  match s.worker with
  | none => return s
  | some w => return { s with worker := some (← w.proceed tools rounds) }

/-- The session once its worker has ended; none if it is still running after so many rounds. -/
def wait (tools : Tools G S) (rounds : Nat) (s : Session G S) :
    Dialogue (Option (Session G S)) := do
  match s.worker with
  | none => return some s
  | some w =>
    let s := { s with phase := .draining, worker := none }
    match ← w.proceed tools rounds with
    | .running _ _ => return none
    | .ended result e => return some { s with engine := some e, outcome := some result }
    | .panicked => return some { s with outcome := some (.error .workerPanicked) }

def stats (s : Session G S) : Stats := (s.engine.map (·.stats)).getD {}

/-- The worker's error before that of the reset, and the statistics without either. -/
def result (outcome : Option (Except SessionError Unit)) (reset : Except ExecutionError Unit)
    (stats : Stats) : Except SessionError Stats :=
  match outcome, reset with
  | some (.error e), _ => .error e
  | _, .error e => .error (.fault (.execution e))
  | _, .ok () => .ok stats

/-- Resets the database if the engine is at hand, and lets go of the engine. -/
def finish (s : Session G S) : Dialogue (Except SessionError Stats × Session G S) := do
  let reset ← match s.engine with
    | some _ => s.database.reset
    | none => pure (.ok ())
  Dialogue.log (.closed s.stats)
  return (result s.outcome reset s.stats,
    { s with phase := .closed, engine := none, outcome := none })

def close (tools : Tools G S) (rounds : Nat) (s : Session G S) :
    Dialogue (Option (Except SessionError Stats × Session G S)) := do
  if s.phase = .closed then return some (s.misuse "close", s)
  else
    match s.token with
    | some t => Dialogue.cancelToken t
    | none => pure ()
    match ← s.wait tools rounds with
    | none => return none
    | some s => return some (← s.finish)

/-- The error of a failed start comes before that of the closing after it. -/
def run (tools : Tools G S) (token : Token) (rounds : Nat) (s : Session G S) :
    Dialogue (Option (Except SessionError Stats × Session G S)) := do
  match ← s.start tools token with
  | (.error err, s) =>
    match ← s.close tools rounds with
    | none => return none
    | some (.ok _, s) => return some (.error err, s)
    | some (.error e, s) =>
      Dialogue.log (.closeFailed e)
      return some (.error err, s)
  | (.ok (), s) =>
    match ← s.wait tools rounds with
    | none => return none
    | some s => s.close tools rounds

end Session

end PivotedQuery
