import PivotedQuery.Profile.Basic
import PivotedQuery.Profile.Scalar
/-!
Profiles as texts: an object of named settings, or an array of them in their order. Settings that
are left out keep their defaults; unknown and repeated ones are refused.
-/
namespace PivotedQuery.Profile

open Reader

/-- A value of no use here: its own flaw comes first, and its type is the flaw otherwise. -/
def unexpected {α : Type} : Reader α := do
  match ← peek with
  | none => fail .eof
  | some c =>
    if c = 'n' then
      drop
      word ['u', 'l', 'l']
      fail .data
    else if c = 't' then
      drop
      word ['r', 'u', 'e']
      fail .data
    else if c = 'f' then
      drop
      word ['a', 'l', 's', 'e']
      fail .data
    else if c = '-' then
      drop
      let _ ← Number.read true
      fail .data
    else if Text.isDigit c then
      let _ ← Number.read false
      fail .data
    else if c = '\x22' then
      drop
      let _ ← Quoted.read
      fail .data
    else if c = '[' ∨ c = '\x7b' then fail .data
    else fail .syntactic

def textValue : Reader String := do
  if (← skip) = some '\x22' then
    drop
    Quoted.read
  else unexpected

def boolValue : Reader Bool := do
  match ← skip with
  | some 't' =>
    drop
    word ['r', 'u', 'e']
    return true
  | some 'f' =>
    drop
    word ['a', 'l', 's', 'e']
    return false
  | _ => unexpected

def numberValue : Reader Number := do
  match ← skip with
  | some '-' =>
    drop
    Number.read true
  | some c => if Text.isDigit c then Number.read false else unexpected
  | none => unexpected

/-- A whole number that is not negative. -/
def natValue : Reader Nat := do
  match ← numberValue with
  | .whole n => return n
  | .other _ => fail .data

def realValue : Reader Real64 := return (← numberValue).toReal

def optional {α : Type} (value : Reader α) : Reader (Option α) := do
  if (← skip) = some 'n' then
    drop
    word ['u', 'l', 'l']
    return none
  else return some (← value)

/-- A setting: its name and how its value changes the settings read so far. -/
structure Setting (S : Type) where
  name : String
  read : S → Reader S

variable {S : Type}

/-- Whether another key follows; it starts with a quote, which is dropped. -/
def hasKey (first : Bool) : Reader Bool := do
  match ← skip with
  | none => fail .eof
  | some '\x7d' => return false
  | some c =>
    if c ≠ ',' ∧ !first then fail .syntactic
    if c = ',' ∧ !first then drop
    if (← skip) = some '\x22' then
      drop
      return true
    else fail (← here)

def colon : Reader Unit := do
  if (← skip) = some ':' then drop else fail (← here)

/-- The rest of an object. A key is judged before its value is looked at. -/
def entries (settings : List (Setting S)) : (fuel : Nat) → (seen : List String) → S → Reader S
  | 0, _, _ => fail .data
  | fuel + 1, seen, s => do
    if ← hasKey seen.isEmpty then
      let key ← Quoted.read
      match settings.find? (·.name == key) with
      | none => fail .data
      | some setting =>
        if seen.contains key then fail .data
        colon
        entries settings fuel (key :: seen) (← setting.read s)
    else
      drop
      return s

/-- The rest of an array, which holds at most one value for each setting. -/
def elements : List (Setting S) → (first : Bool) → S → Reader S
  | [], _, s => do
    match ← skip with
    | some ']' =>
      drop
      return s
    | _ => fail (← here)
  | setting :: settings, first, s => do
    match ← skip with
    | none => fail .eof
    | some ']' =>
      drop
      return s
    | some c =>
      if !first then
        if c ≠ ',' then fail .syntactic
        drop
        if (← skip) = some ']' then fail .syntactic
        if (← skip) = none then fail .eof
      elements settings false (← setting.read s)

/-- An object needs one step for each setting and one for its end. -/
def settingsValue (settings : List (Setting S)) (defaults : S) : Reader S := do
  match ← skip with
  | some '\x7b' =>
    drop
    entries settings (settings.length + 1) [] defaults
  | some '[' =>
    drop
    elements settings true defaults
  | _ => unexpected

def limitSettings : List (Setting PopulationLimits) := [
  ⟨"max_tables", fun l => return { l with maxTables := ← natValue }⟩,
  ⟨"max_indexes", fun l => return { l with maxIndexes := ← natValue }⟩,
  ⟨"max_columns", fun l => return { l with maxColumns := ← natValue }⟩,
  ⟨"max_rows_per_insert", fun l => return { l with maxRowsPerInsert := ← natValue }⟩,
  ⟨"null_probability", fun l => return { l with nullProbability := ← realValue }⟩]

def seedValue : Reader (Option UInt64) := return (← optional natValue).map UInt64.ofNat

def profileSettings : List (Setting Profile) := [
  ⟨"data_source_name", fun p => return { p with dataSource := ← textValue }⟩,
  ⟨"database_name", fun p => return { p with database := ← textValue }⟩,
  ⟨"use_prepared_statements", fun p => return { p with prepared := ← boolValue }⟩,
  ⟨"use_optimizer_hints", fun p => return { p with hints := ← boolValue }⟩,
  ⟨"seed", fun p => return { p with seed := ← seedValue }⟩,
  ⟨"max_depth", fun p => return { p with maxDepth := ← natValue }⟩,
  ⟨"max_iterations", fun p => return { p with maxIterations := ← optional natValue }⟩,
  ⟨"continue_on_infrastructure_fault", fun p => return { p with keepGoing := ← boolValue }⟩,
  ⟨"bootstrap", fun p =>
    return { p with population := ← settingsValue limitSettings {} }⟩]

/-- Nothing but white space may follow. -/
def document : Reader Profile := do
  let p ← settingsValue profileSettings {}
  if (← skip).isSome then fail .syntactic
  return p

def parse (text : String) : Except Flaw Profile := (document.run text.toList).map (·.1)

/-- A profile from the content of the file at `path`, if there is such a file. -/
def load (path : String) (content : Option ByteArray) : Except ProfileError Profile := do
  match content with
  | none => .error (.unreadable path .notFound)
  | some bytes =>
    match String.fromUTF8? bytes with
    | none => .error (.unreadable path .notText)
    | some text =>
      match parse text with
      | .error flaw => .error (.malformed path flaw)
      | .ok p =>
        p.validate
        return p

end PivotedQuery.Profile
