import PivotedQuery.Schema.Probe
import PivotedQuery.Statement.Generator
/-!
The working database: emptied by a reset, then filled with random tables, indexes and rows. Filling
is best effort, so each statement runs on its own and a failing one is only counted.
-/
namespace PivotedQuery

/-- What a maker of statements does; the workbench holds its state. -/
structure StatementMaker (G : Type) where
  createTable : Work G (Except GenerationError String)
  createIndex : IndexOptions → Work G (Except GenerationError String)
  insert : Table → Work G (Except GenerationError String)
  reload : (database : String) → G → Dialogue (Except SchemaError Unit × G)
  tables : G → List Table

namespace Generator

/-- The tables in place of those read before; a failed probe changes nothing. -/
def reload (database : String) (g : Generator) : Dialogue (Except SchemaError Unit × Generator) := do
  match ← Probe.fetch database with
  | .error e => return (.error e, g)
  | .ok tables => return (.ok (), { g with tables })

def maker : StatementMaker Generator where
  createTable := return .ok (← createTable).sql
  createIndex options := return (← createIndex options).map Statement.sql
  insert table := return (← insert table).map Statement.sql
  reload := reload
  tables g := g.tables

end Generator

structure PopulationLimits where
  maxTables : Nat := 10
  maxIndexes : Nat := 9
  maxColumns : Nat := 5
  maxRowsPerInsert : Nat := 3
  nullProbability : Real64 := .ofRatio false 1 10
  deriving DecidableEq

def PopulationLimits.generatorOptions (l : PopulationLimits) : GeneratorOptions where
  maxColumns := l.maxColumns
  maxRowsPerInsert := l.maxRowsPerInsert
  nullProbability := l.nullProbability

/-- A generator that has read no tables yet. -/
def Generator.fresh (l : PopulationLimits) : Generator := { options := l.generatorOptions }

structure WorkingDatabase where
  name : String
  limits : PopulationLimits

/-- Work at a bench that also talks to the database. -/
abbrev Populating (G : Type) := ExceptT DrawError (StateT (Workbench G) Dialogue)

namespace Populating

variable {G α : Type}

def work (w : Work G α) : Populating G α := fun b => Dialogue.done (w b)

def talk (d : Dialogue α) : Populating G α := fun b => do return (.ok (← d), b)

def bench : Populating G (Workbench G) := fun b => Dialogue.done (.ok b, b)

/-- One statement, executed if it could be made. -/
def attempt (kind : StatementKind) (made : Except GenerationError String) (report : Report) :
    Dialogue Report := do
  match made with
  | .error e =>
    Dialogue.log (.statementNotMade kind e)
    return report.record kind false
  | .ok sql =>
    match ← Dialogue.call (.exec sql) with
    | .ok () =>
      Dialogue.log (.statementExecuted sql)
      return report.record kind true
    | .error e =>
      Dialogue.log (.statementFailed kind e)
      return report.record kind false

def attemptAll (kind : StatementKind) :
    List (Work G (Except GenerationError String)) → Report → Populating G Report
  | [], report => return report
  | w :: ws, report => do
    let made ← work w
    let report ← talk (attempt kind made report)
    attemptAll kind ws report

/-- A failed reload is reported and leaves the maker's tables. -/
def reload (maker : StatementMaker G) (database : String) : Populating G Unit := fun b => do
  let (result, g) ← maker.reload database b.maker
  match result with
  | .ok () => pure ()
  | .error e => Dialogue.log (.reloadFailed e)
  return (.ok (), { b with maker := g })

end Populating

namespace WorkingDatabase

open Populating

/-- Dropped, created empty and selected; the first failure ends it. -/
def reset (db : WorkingDatabase) : Dialogue (Except ExecutionError Unit) := do
  match ← Dialogue.call (.dropDatabase db.name) with
  | .error e => return .error e
  | .ok () =>
    match ← Dialogue.call (.createDatabase db.name) with
    | .error e => return .error e
    | .ok () =>
      match ← Dialogue.call (.useDatabase db.name) with
      | .error e => return .error e
      | .ok () =>
        Dialogue.log (.databaseReset db.name)
        return .ok ()

def populate {G : Type} (maker : StatementMaker G) (db : WorkingDatabase) : Populating G Report := do
  let tableCount ← work (Work.draw (Draw.size 1 db.limits.maxTables))
  let report ← attemptAll .createTable (List.replicate tableCount maker.createTable) {}
  reload maker db.name
  let indexCount ← work (Work.draw (Draw.size 0 db.limits.maxIndexes))
  let index := maker.createIndex { online := true }
  let report ← attemptAll .createIndex (List.replicate indexCount index) report
  let tables := maker.tables (← bench).maker
  let report ← attemptAll .insert (tables.map maker.insert) report
  talk (Dialogue.log (.populated report tableCount indexCount tables.length))
  return report

end WorkingDatabase

end PivotedQuery
