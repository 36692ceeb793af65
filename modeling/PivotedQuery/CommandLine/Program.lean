import PivotedQuery.CommandLine.Outcome
import PivotedQuery.Dialogue.Run
import PivotedQuery.Profile.Reader
import PivotedQuery.Session.Lifecycle
/-!
The program from its arguments to its outcome, for any database under test.
-/
namespace PivotedQuery.Program

/-- The options and the profile to run with, if the arguments and the profile file allow it. -/
def configure (readFile : String → Option ByteArray) (args : List String) :
    Except Outcome (Options × Profile) :=
  match Options.parse args with
  | .error reason => .error (.stopped reason)
  | .ok options =>
    match options.config with
    | none => .ok (options, options.override {})
    | some path =>
      match Profile.load path (readFile path) with
      | .error e => .error (.noProfile e)
      | .ok profile => .ok (options, options.override profile)

def ofResult (seed : UInt64) : Except SessionError Stats → Outcome
  | .ok stats => .finished stats
  | .error (.mismatch m) => .mismatch m seed
  | .error e => .failed e

/-- A whole session on an open database; none if it is still running after so many rounds. -/
def session (profile : Profile) (entropy : UInt64) (token : Token) (rounds : Nat) :
    Dialogue (Option Outcome) := do
  match ← Session.opened (Generator.fresh profile.population) () profile entropy with
  | .error e => return some (.notOpened e)
  | .ok session =>
    match ← session.run (Tools.random profile.hints) token rounds with
    | none => return none
    | some (result, _) => return some (ofResult session.seed result)

/-- As many rounds as a worker needs until it reaches the bound of the profile and sees that. -/
def enoughRounds (profile : Profile) : Nat := (profile.maxIterations.getD (twoTo 64)) + 1

structure Run where
  /-- The profile, once there is one. -/
  profile : Option Profile
  /-- None if the worker is still running. -/
  outcome : Option Outcome
  events : Array Event

variable {σ : Type}

/-- How a session on an opened database goes, and what happens to it. -/
def onDatabase (db : Backend σ) (state : σ) (cancelled : List Token) (profile : Profile)
    (entropy : UInt64) : Option (Option Outcome) × World σ :=
  (session profile entropy {} (enoughRounds profile)).run db { state, cancelled }

def run (db : Backend σ) (openDatabase : Profile → Except ExecutionError σ)
    (readFile : String → Option ByteArray) (entropy : UInt64) (args : List String) : Run :=
  match configure readFile args with
  | .error outcome => ⟨none, some outcome, #[]⟩
  | .ok (_, profile) =>
    match openDatabase profile with
    | .error e => ⟨some profile, some (.notOpened (.fault (.execution e))), #[]⟩
    | .ok state =>
      match onDatabase db state [] profile entropy with
      | (some outcome, w) => ⟨some profile, outcome, w.events⟩
      | (none, w) => ⟨some profile, some .crashed, w.events⟩

end PivotedQuery.Program
