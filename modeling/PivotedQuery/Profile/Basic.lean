import PivotedQuery.Population.Basic
/-!
Settings of a session and the conditions on them.
-/
namespace PivotedQuery

structure Profile where
  dataSource : String := ":memory:"
  database : String := "pqs"
  /-- Queries go through prepared statements. -/
  prepared : Bool := false
  /-- Queries may ask for full scans. -/
  hints : Bool := false
  seed : Option UInt64 := none
  maxDepth : Nat := 6
  maxIterations : Option Nat := none
  /-- Faults are counted instead of ending the session. -/
  keepGoing : Bool := false
  population : PopulationLimits := {}
  deriving DecidableEq

namespace Profile

/-- The first condition that fails. A condition of depth one leaves no room for the wrapping. -/
def invalidity (p : Profile) : Option String :=
  if (Text.trim p.database).isEmpty then some "database_name must not be empty"
  else if p.maxDepth < 2 then some "max_depth must be at least 2"
  else if p.maxIterations = some 0 then some "max_iterations must be positive when set"
  else if p.population.maxTables = 0 then some "bootstrap.max_tables must be positive"
  else if p.population.maxColumns = 0 then some "bootstrap.max_columns must be positive"
  else if p.population.maxRowsPerInsert = 0 then
    some "bootstrap.max_rows_per_insert must be positive"
  else if !Draw.isProbability p.population.nullProbability then
    some "bootstrap.null_probability must be within [0, 1]"
  else none

def validate (p : Profile) : Except ProfileError Unit :=
  match p.invalidity with
  | some reason => .error (.invalid reason)
  | none => .ok ()

def workingDatabase (p : Profile) : WorkingDatabase := ⟨p.database, p.population⟩

def optionText : Option Nat → String
  | some n => "Some(" ++ toString n ++ ")"
  | none => "None"

def limitsText (l : PopulationLimits) : String :=
  "BootstrapConfig \x7b max_tables: " ++ toString l.maxTables ++
    ", max_indexes: " ++ toString l.maxIndexes ++
    ", max_columns: " ++ toString l.maxColumns ++
    ", max_rows_per_insert: " ++ toString l.maxRowsPerInsert ++
    ", null_probability: " ++ l.nullProbability.text ++ " \x7d"

def text (p : Profile) : String :=
  "PqsConfig \x7b data_source_name: " ++ Text.escaped p.dataSource ++
    ", database_name: " ++ Text.escaped p.database ++
    ", use_prepared_statements: " ++ Cell.yesNo p.prepared ++
    ", use_optimizer_hints: " ++ Cell.yesNo p.hints ++
    ", seed: " ++ optionText (p.seed.map UInt64.toNat) ++
    ", max_depth: " ++ toString p.maxDepth ++
    ", max_iterations: " ++ optionText p.maxIterations ++
    ", continue_on_infrastructure_fault: " ++ Cell.yesNo p.keepGoing ++
    ", bootstrap: " ++ limitsText p.population ++ " \x7d"

end Profile

end PivotedQuery
