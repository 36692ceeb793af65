import PivotedQuery.Containment.Mismatch
/-!
Phases, statistics and errors of a session.
-/
namespace PivotedQuery

/-- In the order in which a session goes through them. -/
inductive Phase
  | idle
  | bootstrapping
  | snapshotting
  | iterating
  | draining
  | closed
  deriving DecidableEq, Repr

namespace Phase

def name : Phase → String
  | idle => "Idle"
  | bootstrapping => "Bootstrapping"
  | snapshotting => "Snapshotting"
  | iterating => "Iterating"
  | draining => "Draining"
  | closed => "Closed"

def rank : Phase → Nat
  | idle => 0
  | bootstrapping => 1
  | snapshotting => 2
  | iterating => 3
  | draining => 4
  | closed => 5

end Phase

structure Stats where
  /-- Iterations started, skipped and faulty ones included. -/
  iterations : Nat := 0
  /-- Iterations in which no chosen table had a row. -/
  skipped : Nat := 0
  /-- Faults that were tolerated. -/
  faults : Nat := 0
  deriving DecidableEq, Repr

def Stats.text (s : Stats) : String :=
  "RunStats \x7b iterations: " ++ toString s.iterations ++ ", skipped: " ++ toString s.skipped ++
    ", infrastructure_faults: " ++ toString s.faults ++ " \x7d"

inductive SessionError
  | fault (f : Fault)
  | mismatch (m : Mismatch)
  | lifecycle (action : String) (phase : Phase)
  | workerPanicked

namespace SessionError

def message : SessionError → String
  | fault f => "infrastructure fault: " ++ f.message
  | mismatch m => "oracle mismatch detected:\n" ++ m.text
  | lifecycle action phase => "cannot " ++ action ++ " while " ++ phase.name
  | workerPanicked => "fuzzing worker panicked"

def causes : SessionError → List String
  | fault f => f.message :: f.causes
  | _ => []

end SessionError

end PivotedQuery
