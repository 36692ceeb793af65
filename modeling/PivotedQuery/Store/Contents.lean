import PivotedQuery.Sql.Command
import PivotedQuery.Store.Pages
import PivotedQuery.Store.Relation
/-!
Tables, views and indexes in one space of names, and the commands that add to them. A command that
is refused changes nothing.
-/
namespace PivotedQuery

inductive Item
  | table (r : Relation)
  /-- All of another table or view. -/
  | view (name source : Identifier)
  | index (i : Index)

namespace Item

def name : Item → Identifier
  | table r => r.name
  | view name _ => name
  | index i => i.name

/-- The table that an index is about; what is no index is about itself. -/
def subject : Item → Identifier
  | index i => i.table
  | item => item.name

def kind : Item → String
  | table _ => "table"
  | view .. => "view"
  | index _ => "index"

def dropSql (i : Item) : String := "DROP " ++ Text.upper i.kind ++ " IF EXISTS " ++ i.name.quoted

def isIndex : Item → Bool
  | index _ => true
  | _ => false

end Item

/-- An item as the schema records it. -/
structure Recorded where
  item : Item
  /-- Where it starts; a view has no page. -/
  page : Nat := 0
  /-- The statement that made it; the index of a primary key has none of its own. -/
  sql : Option String := none

structure Contents where
  /-- Oldest first. -/
  objects : List Recorded := []
  pages : Pages := {}

namespace Contents

def items (c : Contents) : List Item := c.objects.map (·.item)

/-- The table or view of that name. -/
def item? (c : Contents) (name : Identifier) : Option Item :=
  c.items.find? fun i => !i.isIndex && i.name == name

/-- Newest first. -/
def indexesOf (c : Contents) (table : Identifier) : List Index :=
  (c.items.filterMap fun
    | .index i => if i.table == table then some i else none
    | _ => none).reverse

def isReserved (name : Identifier) : Bool := "sqlite_".toList.isPrefixOf name.folded.toList

def checkName (c : Contents) (name : Identifier) : Except Refusal Unit :=
  if isReserved name then .error (.reservedName name)
  else if c.items.any (·.name == name) then .error (.nameTaken name)
  else .ok ()

/-- The contents with an item that needs no page. -/
def recorded (c : Contents) (item : Item) (sql : String) : Contents :=
  { c with objects := c.objects ++ [⟨item, 0, some sql⟩] }

/-- The contents with an item on a page of its own. -/
def placed (c : Contents) (item : Item) (sql : Option String) : Contents :=
  let (page, pages) := c.pages.take
  ⟨c.objects ++ [⟨item, page, sql⟩], pages⟩

/-- The first name that is given again later. -/
def repeated? : List Identifier → Option Identifier
  | [] => none
  | n :: ns => if ns.contains n then some n else repeated? ns

/-- Declared types that are kept in capitals however they are written. -/
def standardTypes : List String := ["ANY", "BLOB", "INT", "INTEGER", "REAL", "TEXT"]

def kept (c : Column) : Column :=
  let upper := c.declaredType.map Char.toUpper
  if standardTypes.contains upper then { c with declaredType := upper } else c

/-- Columns that have to be unique, each once; numbers of rows are that already. -/
def keyColumns (r : Relation) (keys : List Sql.Key) : List Identifier :=
  let guarded := keys.filter fun k => !k.primary || r.numberPlace ≠ some k.place
  (guarded.map (·.place)).eraseDups.filterMap fun place => r.columns[place]?.map (·.name)

/-- The indexes that guard keys, numbered from one. -/
def keyIndexes (r : Relation) (keys : List Sql.Key) : List Index :=
  let columns := keyColumns r keys
  (List.range columns.length).zip columns |>.map fun (i, column) =>
    ⟨⟨"sqlite_autoindex_" ++ r.name.name ++ "_" ++ toString (i + 1)⟩, r.name, [column], true⟩

/-- The most columns of a table, an index or a row. -/
def maxWidth : Nat := 2000

def createTable (c : Contents) (sql : String) (name : Identifier) (columns : List Column)
    (keys : List Sql.Key) : Except Refusal Contents := do
  c.checkName name
  if columns.isEmpty then throw (.noColumns name)
  if maxWidth < columns.length then throw (.tooManyColumns ("on " ++ name.name))
  match repeated? (columns.map (·.name)) with
  | some column => throw (.duplicateColumn column)
  | none =>
    let primaryKey := (keys.find? (·.primary)).map (·.place)
    let r : Relation := { name, columns := columns.map kept, primaryKey }
    return (keyIndexes r keys).foldl (fun c i => c.placed (.index i) none) (c.placed (.table r) sql)

def createView (c : Contents) (sql : String) (name source : Identifier) :
    Except Refusal Contents := do
  c.checkName name
  return c.recorded (.view name source) sql

/-- Whether two rows share their values in the columns. -/
def sharedEntries (r : Relation) (columns : List Identifier) : List Row → Bool
  | [] => false
  | row :: rows =>
    let own := Relation.entries r.columns columns row
    rows.any (fun other => Relation.collide own (Relation.entries r.columns columns other)) ||
      sharedEntries r columns rows

def createIndex (c : Contents) (sql : String) (i : Index) : Except Refusal Contents := do
  match c.item? i.table with
  | none => throw (.noTable i.table)
  | some (.table r) =>
    c.checkName i.name
    if maxWidth < i.columns.length then throw (.tooManyColumns "in index")
    if i.unique && sharedEntries r i.columns r.rows then throw (r.violation i)
    return c.placed (.index { i with table := r.name }) sql
  | some _ => throw (.notATable i.table)

def replace (r : Relation) (o : Recorded) : Recorded :=
  match o.item with
  | .table old => if old.name == r.name then { o with item := .table r } else o
  | _ => o

/-- The place of each named column; none if one is unknown. -/
def columnAt (columns : List Column) (name : Identifier) : Except Refusal Nat :=
  match columns.findIdx? (·.name == name) with
  | some i => .ok i
  | none => .error (.noColumn name)

/-- Values given by column name, spread over all columns. -/
def spread (columns : List Column) (places : List Nat) (row : Row) : Row :=
  (List.range columns.length).map fun i =>
    (((places.zip row).find? (·.1 == i)).map (·.2)).getD .null

/-- The row as one value per column; without names it is that already. -/
def widened (r : Relation) (names : List Identifier) (row : Row) : Except Refusal Row := do
  if names.isEmpty then return row
  let places ← names.mapM (columnAt r.columns)
  if row.length ≠ names.length then throw (.width names.length row.length)
  return spread r.columns places row

def insert (c : Contents) (table : Identifier) (names : List Identifier) (rows : List Row) :
    Except Refusal Contents := do
  match c.item? table with
  | none => throw (.noTable table)
  | some (.table r) =>
    let rows ← rows.mapM (widened r names)
    let r ← rows.foldlM (Relation.insert (c.indexesOf table)) r
    return { c with objects := c.objects.map (replace r) }
  | some _ => throw (.notATable table)

/-- What a command with the given text does. -/
def execute (c : Contents) (sql : String) : Sql.Command → Except Refusal Contents
  | .createTable name columns keys => c.createTable sql name columns keys
  | .createView name source => c.createView sql name source
  | .createIndex name table columns unique => c.createIndex sql ⟨name, table, columns, unique⟩
  | .insert table columns rows => c.insert table columns rows

/-- The pages of a table and its indexes, the last one first. -/
def pagesOf (c : Contents) (table : Identifier) : List Nat :=
  ((c.objects.filter fun o => o.item.subject == table && o.page != 0).map (·.page)).mergeSort (· ≥ ·)

/-- The tables and views that are not the store's own, oldest first. -/
def userItems (c : Contents) : List Item :=
  c.items.filter fun i => !i.isIndex && !isReserved i.name

/-- The contents without a table or view and without the indexes that go with it. -/
def drop (c : Contents) (name : Identifier) : Contents where
  objects := c.objects.filter fun o => !(o.item.subject == name)
  pages := (c.pagesOf name).foldl Pages.release c.pages

/-! What the schema shows. -/

/-- The users' base tables, sorted by the bytes of their names. -/
def tableNames (c : Contents) : List Identifier :=
  let names := c.userItems.filterMap fun
    | .table r => some r.name
    | _ => none
  names.mergeSort fun a b => compare (utf8 a.name) (utf8 b.name) != .gt

def schemaNames : List Identifier := [⟨"sqlite_master"⟩, ⟨"sqlite_schema"⟩]

/-- Names of a schema that holds nothing and that no view may show. -/
def temporaryNames : List Identifier := [⟨"sqlite_temp_master"⟩, ⟨"sqlite_temp_schema"⟩]

def schemaRow (o : Recorded) : Row :=
  [.text o.item.kind, .text o.item.name.name, .text o.item.subject.name,
    .integer (Int64.ofNat o.page), (o.sql.map Value.text).getD .null]

/-- The schema as a table under one of its names. -/
def schemaTable? (c : Contents) (name : Identifier) : Option Relation :=
  let columns : List Column := [⟨⟨"type"⟩, "TEXT", true⟩, ⟨⟨"name"⟩, "TEXT", true⟩,
    ⟨⟨"tbl_name"⟩, "TEXT", true⟩, ⟨⟨"rootpage"⟩, "INT", true⟩, ⟨⟨"sql"⟩, "TEXT", true⟩]
  if schemaNames.contains name then some { name, columns, rows := c.objects.map schemaRow }
  else if temporaryNames.contains name then some { name, columns }
  else none

/-- A table, or what a view shows of one through at most so many views. -/
def shownUpTo (c : Contents) : (views : Nat) → Identifier → Except Refusal Relation
  | 0, name => .error (.noTable name)
  | views + 1, name =>
    match c.item? name with
    | some (.table r) => .ok r
    | some (.view _ source) =>
      if temporaryNames.contains source then .error (.noTable source)
      else (c.shownUpTo views source).map fun r =>
        { r with columns := r.columns.map ({ · with nullable := true }), primaryKey := none }
    | _ => match c.schemaTable? name with
      | some r => .ok r
      | none => .error (.noTable name)

def shown (c : Contents) (name : Identifier) : Except Refusal Relation :=
  c.shownUpTo (c.items.length + 1) name

/-- A column of a view, which never lacks a type. -/
def typedColumn (c : Column) : Column :=
  if c.declaredType.isEmpty then { c with declaredType := "BLOB" } else c

/-- None for a name that is not known. -/
def columnsOf (c : Contents) (name : Identifier) : Except Refusal (List Column) :=
  match c.item? name with
  | some (.view ..) => (c.shown name).map fun r => r.columns.map typedColumn
  | some _ => (c.shown name).map Relation.described
  | none => .ok (((c.schemaTable? name).map (·.columns)).getD [])

end Contents

end PivotedQuery
