import PivotedQuery.CommandLine.Arguments
import PivotedQuery.Dialogue.Event
/-!
How a run of the program can end: what it reports last, and its exit code.
-/
namespace PivotedQuery

inductive Outcome
  | stopped (reason : Stop)
  | noProfile (e : ProfileError)
  | notOpened (e : SessionError)
  | finished (stats : Stats)
  | mismatch (m : Mismatch) (seed : UInt64)
  | failed (e : SessionError)
  | crashed

def Stop.exitCode : Stop → UInt8
  | help => 0
  | version => 0
  | usage _ => 2

namespace Outcome

def exitCode : Outcome → UInt8
  | stopped reason => reason.exitCode
  | noProfile _ => 1
  | notOpened _ => 1
  | finished _ => 0
  | mismatch .. => 1
  | failed _ => 2
  | crashed => 101

/-- A message and the causes below it on one line. -/
def chain (message : String) (causes : List String) : String :=
  String.intercalate ": " (message :: causes)

def log : Outcome → List (Level × String)
  | finished stats => [(.info, "Final stats: " ++ stats.text)]
  | mismatch m seed =>
    [(.error, (SessionError.mismatch m).message),
      (.error, "reproduce with --seed " ++ toString seed.toNat)]
  | failed e => [(.error, chain e.message e.causes)]
  | _ => []

def usage : String :=
  "Usage: pivoted-query [OPTIONS]\n\nOptions:\n" ++
    String.intercalate "\n" (Argument.all.map Argument.usageLine)

/-- What is printed where no log is kept. -/
def printed : Outcome → Option String
  | stopped .help => some usage
  | stopped .version => some "pivoted-query 0.1.0"
  | stopped (.usage e) => some ("error: " ++ e.message)
  | noProfile e => some ("error: loading the profile: " ++ chain e.message e.causes)
  | notOpened e => some ("error: opening the database under test: " ++ chain e.message e.causes)
  | crashed => some "error: the session broke down"
  | _ => none

end Outcome

end PivotedQuery
