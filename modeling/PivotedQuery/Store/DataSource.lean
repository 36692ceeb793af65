import PivotedQuery.Store.Basic
import PivotedQuery.Store.Locator
/-!
Data sources: private memory, a path, or a `file:` URI that says how its path is opened.
-/
namespace PivotedQuery

/-- What the user of a database may do, or that it lives in memory. -/
inductive Access
  | readOnly
  | readWrite
  /-- A missing file is created. -/
  | create
  | memory
  deriving DecidableEq

namespace Access

def all : List Access := [readOnly, readWrite, create, memory]

def name : Access → String
  | readOnly => "ro"
  | readWrite => "rw"
  | create => "rwc"
  | memory => "memory"

def rank : Access → Nat
  | readOnly => 0
  | readWrite => 1
  | create => 2
  | memory => 0

/-- A later mode asks for no more than the one before; memory grants everything. -/
def grants (old new : Access) : Bool := old == memory || new.rank ≤ old.rank

end Access

/-- How a file is opened. -/
structure FileUse where
  path : Path
  create : Bool := true
  readOnly : Bool := false
  /-- What has to exist as well, because a new file takes its permissions. -/
  model : Option Path := none
  deriving DecidableEq

inductive DataSource
  | memory (readOnly : Bool)
  | file (use : FileUse)
  deriving DecidableEq

namespace DataSource

/-- Ways to keep and lock files that differ in nothing that is answered. -/
def fileSystems : List String := ["unix", "unix-none", "unix-dotfile", "unix-excl"]

/-- The file system that keeps what it is given a path for in memory. -/
def memorySystem : String := "memdb"

def cacheModes : List String := ["shared", "private"]

/-- The access after a setting; none for a mode that is unknown or not granted. -/
def access? (old : Access) : List UInt8 × List UInt8 → Option Access
  | (name, value) =>
    if name = utf8 "mode" then
      (Access.all.find? (utf8 ·.name == value)).filter old.grants
    else if name = utf8 "cache" && !(cacheModes.map utf8).contains value then none
    else some old

/-- Truth of a setting: a number by its last eight bits, another value by its word. -/
def isOn (value : List UInt8) : Bool :=
  let cs := value.map fun b => (Char.ofNat b.toNat).toLower
  let digits := cs.takeWhile Text.isDigit
  if digits.isEmpty then ["on", "yes", "true"].any (·.toList == cs)
  else
    let n := Text.digitsValue digits
    n < twoTo 31 && n % 256 != 0

def isInMemory (path : Path) : Bool := path.isEmpty || path = utf8 ":memory:"

def ofLocator (l : Locator) : Option DataSource := do
  let access ← l.settings.foldlM access? .create
  let system := (l.settings.reverse.lookup (utf8 "vfs")).getD (utf8 "unix")
  let readOnly := access == .readOnly
  if !((memorySystem :: fileSystems).map utf8).contains system then none
  if access == .memory || isInMemory l.path then return memory readOnly
  let readOnly := readOnly || (l.setting? "immutable").any isOn
  if system = utf8 memorySystem then return memory readOnly
  return file { path := l.path, create := access == .create, readOnly, model := l.setting? "modeof" }

/-- None for a text that no file has for its name, and for a URI that is not understood. -/
def parse (s : String) : Option DataSource :=
  if s.contains '\x00' then none
  else match Text.expect "file:" s.toList with
    | some rest => (Locator.parse rest).bind ofLocator
    | none => if isInMemory (utf8 s) then some (memory false) else some (file { path := utf8 s })

end DataSource

/-- What stands at a path. -/
inductive Entry
  | file (content : ByteArray)
  /-- A file that can be read but not written. -/
  | sealed (content : ByteArray)
  | directory
  /-- Nothing, but a file can be created. -/
  | vacant
  | unreachable

def Entry.exists : Entry → Bool
  | file _ | sealed _ | directory => true
  | vacant | unreachable => false

/-- What stands at the end of the names of a path. -/
abbrev Files := List Path → Entry

namespace FileUse

/-- Nothing is written without a journal beside the file. Its name is eight bytes longer, and a
name has at most 255 bytes. -/
def isWritable (u : FileUse) : Bool := !u.readOnly && u.path.names.head?.all (·.length ≤ 247)

/-- The content of the file that is opened, and whether it can be written; a new file is empty. -/
def content? (u : FileUse) (files : Files) : Option (ByteArray × Bool) :=
  if u.model.any fun path => path.isEmpty || !(files path.names).exists then none
  else match files u.path.names with
    | .file content => some (content, u.isWritable)
    | .sealed content => some (content, false)
    | .vacant => if u.create then some (.empty, u.isWritable) else none
    | .directory | .unreachable => none

end FileUse

/-- A store with or without kept statements. -/
def Store.opened (files : Files) (prepared : Bool) (dataSource : String) :
    Except ExecutionError Store :=
  let statements := if prepared then some {} else none
  match DataSource.parse dataSource with
  | some (.memory readOnly) => .ok { statements, readOnly }
  | some (.file use) =>
    match use.content? files with
    | some (content, writable) => .ok { statements, readOnly := !writable, damaged := content.size ≠ 0 }
    | none => .error (.openFailed dataSource "unable to open database file")
  | none => .error (.openFailed dataSource "the data source is not understood")

end PivotedQuery
