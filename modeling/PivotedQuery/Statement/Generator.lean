import PivotedQuery.Random.Choice
import PivotedQuery.Random.Value
import PivotedQuery.Statement.Basic
import PivotedQuery.Statement.Words
/-!
Random statements against the tables that were last read. Names of tables and indexes end in a
number that is used once.
-/
namespace PivotedQuery

/-- A maker of statements together with the source that it draws from. -/
structure Workbench (G : Type) where
  maker : G
  source : Source

/-- Work at a bench; if it fails, the bench stays as the work left it. -/
abbrev Work (G : Type) := ExceptT DrawError (StateM (Workbench G))

namespace Work

variable {G : Type}

def draw {α : Type} (d : Draw α) : Work G α := fun b =>
  let (r, source) := d b.source
  (r, { b with source })

instance : MonadLift Draw (Work G) := ⟨draw⟩

def maker : Work G G := fun b => (.ok b.maker, b)

def setMaker (g : G) : Work G Unit := fun b => (.ok (), { b with maker := g })

end Work

/-- Restricts the indexes to be made. -/
structure IndexOptions where
  /-- The index must fit rows that are there already, so it is not unique. -/
  online : Bool := false
  /-- Tables to choose from; none stands for all. -/
  tables : List Identifier := []

structure GeneratorOptions where
  maxColumns : Nat := 5
  maxRowsPerInsert : Nat := 3
  nullProbability : Real64 := .ofRatio false 1 10
  notNullProbability : Real64 := .ofRatio false 2 10
  primaryKeyProbability : Real64 := .ofRatio false 1 10
  uniqueIndexProbability : Real64 := .ofRatio false 2 10

structure Generator where
  options : GeneratorOptions := {}
  tables : List Table := []
  nextId : Nat := 0

namespace Generator

def takeId : Work Generator Nat := do
  let g ← Work.maker
  Work.setMaker { g with nextId := g.nextId + 1 }
  return g.nextId

def tableName : Work Generator Identifier := do
  let adjective ← Draw.pick adjectives
  let noun ← Draw.pick nouns
  let id ← takeId
  return ⟨adjective ++ "_" ++ noun ++ "_" ++ toString id⟩

def column (notNull : Real64) (i : Nat) : Draw Column := do
  let noun ← Draw.pick nouns
  let declaredType ← Draw.pick declaredTypes
  let required ← Draw.chance notNull
  return ⟨⟨noun ++ "_" ++ toString i⟩, declaredType, !required⟩

/-- The bytes of so many columns side by side, without the texts that they point to. -/
def columnBytes (count : Nat) : Nat := 80 * count

def columns (options : GeneratorOptions) : Draw (List Column) := do
  let count ← Draw.size 1 (max options.maxColumns 1)
  Draw.reserve (columnBytes count)
  (List.range count).mapM (column options.notNullProbability)

def createTable : Work Generator Statement := do
  let name ← tableName
  let options := (← Work.maker).options
  let columns ← columns options
  let primaryKey ← Draw.chance options.primaryKeyProbability
  return .createTable name columns primaryKey

/-- Tables that have a column and are not ruled out. -/
def candidates (g : Generator) (options : IndexOptions) : List Table :=
  g.tables.filter fun t =>
    !t.columns.isEmpty && (options.tables.isEmpty || options.tables.contains t.name)

def indexColumn (c : Column) : Draw IndexColumn :=
  return ⟨c.name, !(← Draw.chance (.ofRatio false 1 2))⟩

def indexColumns (columns : List Column) : Draw (List IndexColumn) := do
  let shuffled ← Draw.shuffle columns
  let count ← Draw.size 1 (min shuffled.length 3)
  (shuffled.take count).mapM indexColumn

def indexUnique (g : Generator) (options : IndexOptions) : Draw Bool :=
  if options.online then return false else Draw.chance g.options.uniqueIndexProbability

def createIndex (options : IndexOptions) : Work Generator (Except GenerationError Statement) := do
  let g ← Work.maker
  if (g.candidates options).isEmpty then return .error (.noTable "create index")
  else
    let table ← Draw.pick (g.candidates options)
    let columns ← indexColumns table.columns
    let unique ← g.indexUnique options
    let id ← takeId
    let name := "idx_" ++ table.name.name ++ "_" ++ toString id
    return .ok (.createIndex ⟨name⟩ table.name columns unique)

def cellValue (null : Real64) (c : Column) : Draw Value := do
  if c.nullable then
    if ← Draw.chance null then return .null
    else Draw.value c.affinity
  else Draw.value c.affinity

def row (options : GeneratorOptions) (columns : List Column) : Draw (List Value) :=
  columns.mapM (cellValue options.nullProbability)

/-- The bytes of the commas and blanks between so many rows. The number never wraps around. -/
def separatorBytes (count : Nat) : Nat := 2 * (count - 1)

/-- The text of the rows begins with the first of them, and then has room set aside for as much as
the others are sure to need. -/
def rows (options : GeneratorOptions) (columns : List Column) : Draw (List (List Value)) := do
  let count ← Draw.size 1 (max options.maxRowsPerInsert 1)
  let first ← row options columns
  Draw.reserve (separatorBytes count)
  let others ← Draw.repeated (row options columns) (count - 1)
  return first :: others

def insert (table : Table) : Work Generator (Except GenerationError Statement) := do
  if table.columns.isEmpty then return .error (.noColumns table.name.name)
  else
    let g ← Work.maker
    let rows ← rows g.options table.columns
    return .ok (.insert table.name (table.columns.map (·.name)) rows)

end Generator

end PivotedQuery
