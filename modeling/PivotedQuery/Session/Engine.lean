import PivotedQuery.Containment.Check
import PivotedQuery.Pivot.Selection
import PivotedQuery.Profile.Basic
import PivotedQuery.Query.Synthesis
/-!
The iterations of a session. Each reads the schema, chooses a pivot, sends a query that must
return it and checks that it does; the worker repeats this until it is cancelled, reaches its bound
or meets an error.
-/
namespace PivotedQuery

/-- Makes a query of the given tables that holds for the pivot row. -/
structure Synthesizer (S : Type) where
  synthesize : (maxDepth : Nat) → List Table → PivotRow → S →
    Draw (Except SynthesisError RenderedQuery × S)

def Synthesizer.pivoted (hints : Bool) : Synthesizer Unit where
  synthesize maxDepth tables pivot _ := do
    match ← Query.draw hints maxDepth tables with
    | .error e => return (.error e, ())
    | .ok q => return (q.render tables pivot, ())

/-- The two exchangeable parts of a session. -/
structure Tools (G S : Type) where
  maker : StatementMaker G
  synthesizer : Synthesizer S

def Tools.random (hints : Bool) : Tools Generator Unit := ⟨Generator.maker, .pivoted hints⟩

/-- All that the worker owns while it iterates. -/
structure Engine (G S : Type) where
  bench : Workbench G
  synthesizer : S
  snapshot : List Table := []
  profile : Profile
  stats : Stats := {}

inductive Iteration
  | verified
  | skipped
  deriving DecidableEq, Repr

namespace Engine

variable {G S : Type}

/-- A failing draw breaks down. -/
def draw {α : Type} (e : Engine G S) (d : Draw α) : Dialogue (α × Engine G S) :=
  match d e.bench.source with
  | (.ok a, source) => .done (a, { e with bench := { e.bench with source } })
  | (.error _, _) => .crash

/-- How an iteration ended, and the engine after it. -/
abbrev Step (G S : Type) := Except SessionError Iteration × Engine G S

def verdict (e : Engine G S) : Except Fault Verdict → Step G S
  | .error f => (.error (.fault f), e)
  | .ok .pass => (.ok .verified, e)
  | .ok (.fail m) => (.error (.mismatch m), e)

def query (tools : Tools G S) (e : Engine G S) (c : Pivot.Choice) : Dialogue (Step G S) := do
  let ((result, synthesizer), e) ←
    e.draw (tools.synthesizer.synthesize e.profile.maxDepth c.used c.pivot e.synthesizer)
  let e := { e with synthesizer }
  match result with
  | .error err => return (.error (.fault (.synthesis err)), e)
  | .ok query =>
    Dialogue.log (.synthesized query c.pivot)
    return e.verdict (← Containment.check c.pivot query)

def iterate (tools : Tools G S) (e : Engine G S) : Dialogue (Step G S) := do
  let (result, snapshot) ← Probe.refresh e.profile.database e.snapshot
  let e := { e with snapshot }
  match result with
  | .error err => return (.error (.fault (.schema err)), e)
  | .ok tables =>
    let ((_, choice), e) ← e.draw (Pivot.choose tables)
    match ← choice with
    | .error err => return (.error (.fault (.pivot err)), e)
    | .ok choice =>
      if choice.used.isEmpty then
        Dialogue.log .nothingChosen
        return (.ok .skipped, e)
      else e.query tools choice

def countIteration (e : Engine G S) : Engine G S :=
  { e with stats := { e.stats with iterations := e.stats.iterations + 1 } }

def countSkipped (e : Engine G S) : Engine G S :=
  { e with stats := { e.stats with skipped := e.stats.skipped + 1 } }

def countFault (e : Engine G S) : Engine G S :=
  { e with stats := { e.stats with faults := e.stats.faults + 1 } }

def boundReached (e : Engine G S) : Bool :=
  match e.profile.maxIterations with
  | some max => max ≤ e.stats.iterations
  | none => false

/-- How a worker ended, if it did. -/
abbrev Ending := Option (Except SessionError Unit)

/-- A fault seen after cancellation is nobody's fault. -/
def settle (t : Token) (e : Engine G S) :
    Except SessionError Iteration → Dialogue (Ending × Engine G S)
  | .ok .verified => return (none, e)
  | .ok .skipped => return (none, e.countSkipped)
  | .error (.fault f) => do
    if ← Dialogue.cancelled t then
      Dialogue.log (.iterationAborted f)
      return (none, e)
    else if e.profile.keepGoing then
      Dialogue.log (.faultTolerated e.stats.iterations f)
      return (none, e.countFault)
    else return (some (.error (.fault f)), e)
  | .error err => return (some (.error err), e)

def round (tools : Tools G S) (t : Token) (e : Engine G S) : Dialogue (Ending × Engine G S) := do
  if ← Dialogue.cancelled t then
    Dialogue.log (.cancelled e.stats.iterations)
    return (some (.ok ()), e)
  else if e.boundReached then
    Dialogue.log (.boundReached (e.profile.maxIterations.getD 0))
    return (some (.ok ()), e)
  else
    let (result, e) ← e.countIteration.iterate tools
    settle t e result

/-- At most so many rounds; a worker that has not ended by then is still running. -/
def work (tools : Tools G S) (t : Token) : (rounds : Nat) → Engine G S → Dialogue (Ending × Engine G S)
  | 0, e => return (none, e)
  | n + 1, e => do
    match ← e.round tools t with
    | (some result, e) => return (some result, e)
    | (none, e) => work tools t n e

end Engine

end PivotedQuery
