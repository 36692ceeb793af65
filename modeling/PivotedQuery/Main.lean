import PivotedQuery.CommandLine.Program
import PivotedQuery.Store.DataSource
/-!
The program on a terminal: it reads the profile and the data source, runs the session against the
store, and prints what is worth a line as it happens.
-/
namespace PivotedQuery.Terminal

def logged : Level → Bool
  | .info | .warn | .error => true
  | .trace | .debug => false

def log (level : Level) (text : String) : IO Unit := do
  if logged level then IO.println (level.name ++ " " ++ text)

def logEvent (e : Event) : IO Unit := log e.level e.message

/-- The work against a store. Whatever token is asked for counts as cancelled after the deadline. -/
def serve {α : Type} (deadline : Option Nat) : Dialogue α → Store → Bool → IO (Option α)
  | .done a, _, _ => return some a
  | .crash, _, _ => return none
  | .ask r k, s, cancelled => do
    let (reply, next) := s.answer r
    (s.dropped r).forM logEvent
    serve deadline (k (some reply)) next cancelled
  | .isCancelled _ k, s, cancelled => do
    let now ← IO.monoMsNow
    let cancelled := cancelled || deadline.any (· ≤ now)
    serve deadline (k cancelled) s cancelled
  | .cancel _ d, s, _ => serve deadline d s true
  | .report e d, s, cancelled => do
    logEvent e
    serve deadline d s cancelled

def readFile (path : String) : IO (Option ByteArray) := do
  try return some (← IO.FS.readBinFile path)
  catch _ => return none

def isWritable (path : String) : IO Bool := do
  try
    let _ ← IO.FS.Handle.mk path .readWrite
    return true
  catch _ => return false

/-- What can be read at a path that is a text. -/
def entryAt (path : Path) : IO Entry := do
  match String.fromUTF8? ⟨path.toArray⟩ with
  | none => return .unreachable
  | some path => match ← readFile path with
    | none => return .unreachable
    | some content => return if ← isWritable path then .file content else .sealed content

/-- Creates a missing file where that can be done. -/
def createFile (path : Path) : IO Unit := do
  try
    let _ ← IO.FS.Handle.mk ((String.fromUTF8? ⟨path.toArray⟩).getD "") .append
  catch _ => return

def filesFor (use : FileUse) : IO Files := do
  let models ← use.model.toList.mapM fun path => return (path.names, ← entryAt path)
  if use.create && models.all (·.2.exists) then createFile use.path
  let found := (use.path.names, ← entryAt use.path)
  return fun names => ((found :: models).lookup names).getD .unreachable

def profileFile (args : List String) : IO (Option ByteArray) := do
  match Options.parse args with
  | .ok { config := some path, .. } => readFile path
  | _ => return none

def openStore (profile : Profile) : IO (Except ExecutionError Store) := do
  let files : Files ← match DataSource.parse profile.dataSource with
    | some (.file use) => filesFor use
    | _ => pure fun _ => .unreachable
  return Store.opened files profile.prepared profile.dataSource

def entropy : IO UInt64 := do
  let bytes ← IO.getRandomBytes 8
  return bytes.foldl (fun n b => 256 * n + b.toUInt64) 0

def deadlineOf (options : Options) : IO (Option Nat) := do
  let now ← IO.monoMsNow
  return options.duration.map fun seconds => now + 1000 * seconds

def session (options : Options) (profile : Profile) (store : Store) : IO Outcome := do
  let deadline ← deadlineOf options
  let work := Program.session profile (← entropy) {} (Program.enoughRounds profile)
  return ((← serve deadline work store false).bind id).getD .crashed

def launch (args : List String) : IO Outcome := do
  let content ← profileFile args
  match Program.configure (fun _ => content) args with
  | .error outcome => return outcome
  | .ok (options, profile) =>
    log .info ("starting with config: " ++ profile.text)
    match ← openStore profile with
    | .error e => return .notOpened (.fault (.execution e))
    | .ok store => session options profile store

/-- The outcome as its log lines, and what else it says on the stream that fits its exit code. -/
def conclude (outcome : Outcome) : IO Unit := do
  outcome.log.forM fun (level, text) => log level text
  match outcome.printed with
  | some text => if outcome.exitCode = 0 then IO.println text else IO.eprintln text
  | none => return

end PivotedQuery.Terminal

def main (args : List String) : IO UInt32 := do
  let outcome ← PivotedQuery.Terminal.launch args
  PivotedQuery.Terminal.conclude outcome
  return outcome.exitCode.toUInt32
