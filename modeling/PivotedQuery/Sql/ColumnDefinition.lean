import PivotedQuery.Sql.Blank
/-!
Column definitions: a name, a declared type of any number of words and up to two numbers, and what
is asked of the column after it.
-/
namespace PivotedQuery.Sql

open Reader

/-- More words as long as there are any. -/
def moreWordsUpTo : (fuel : Nat) → Reader Unit
  | 0 => return
  | fuel + 1 => either (do blanks; nameWord; moreWordsUpTo fuel) (return)

/-- Nothing, or the letter E and an integer. -/
def exponent : Reader Unit := fun cs =>
  match cs with
  | c :: rest =>
    if c.toUpper ≠ 'E' then some ((), cs)
    else
      let unsigned := if rest.head?.any ['+', '-'].contains then rest.drop 1 else rest
      let (digits, rest) := Text.splitDigits unsigned
      if digits.isEmpty then none else some ((), rest)
  | [] => some ((), cs)

def number : Reader Unit := fun cs =>
  let (whole, rest) := Text.splitDigits cs
  let (places, rest) := match rest with
    | '.' :: rest => Text.splitDigits rest
    | rest => ([], rest)
  if whole.isEmpty && places.isEmpty then none else exponent rest

def signedNumber : Reader Unit := do
  blanks
  if !(← optional "-") then
    let _ ← optional "+"
  blanks
  number
  blanks

def arguments : Reader Unit := do
  blanks
  word "("
  signedNumber
  if ← optional "," then signedNumber
  word ")"

def typeWords : Reader Unit := do
  nameWord
  fun cs => moreWordsUpTo cs.length cs
  either arguments (return)

/-- The text of a type as it stands; of a type that starts with a quote only what is quoted. -/
def declaredType : Reader String := fun cs =>
  match typeWords cs with
  | none => some ("", cs)
  | some (_, rest) =>
    let taken := cs.take (cs.length - rest.length)
    some (String.ofList (((readQuoted taken).map (·.1)).getD taken), rest)

/-- A key over one column, given by its place; a table has at most one primary key. -/
structure Key where
  place : Nat
  primary : Bool
  deriving DecidableEq

def Key.sql (k : Key) : String := if k.primary then " PRIMARY KEY" else " UNIQUE"

/-- The definitions of columns that take the keys at their places. -/
def definitionsSql (columns : List Column) (keys : List Key) : List String :=
  (List.range columns.length).zip columns |>.map fun (place, c) =>
    c.sql ++ String.join ((keys.filter (·.place == place)).map Key.sql)

inductive ColumnConstraint
  | null
  | notNull
  | key (primary : Bool)
  deriving DecidableEq

def ColumnConstraint.key? : ColumnConstraint → Option Bool
  | key primary => some primary
  | _ => none

def constraint : Reader ColumnConstraint := do
  blanks
  either (do keyword "NULL"; return .null)
    (either (do keyword "NOT"; blanks; keyword "NULL"; return .notNull)
      (either (do keyword "UNIQUE"; return .key false)
        (do keyword "PRIMARY"; blanks; keyword "KEY"; return .key true)))

def constraintsUpTo : (fuel : Nat) → Reader (List ColumnConstraint)
  | 0 => return []
  | fuel + 1 => either (do return (← constraint) :: (← constraintsUpTo fuel)) (return [])

/-- A column and whether each of its keys is primary. -/
def columnDefinition : Reader (Column × List Bool) := do
  let column ← name
  blanks
  let type ← declaredType
  let constraints ← fun cs => constraintsUpTo cs.length cs
  blanks
  return (⟨column, type, !constraints.contains .notNull⟩, constraints.filterMap (·.key?))

def columnDefinitions : Reader (List Column × List Key) := do
  let defined ← list columnDefinition
  let keys := (List.range defined.length).zip defined |>.flatMap fun (place, _, keys) =>
    keys.map (Key.mk place)
  if 1 < keys.countP (·.primary) then refuse
  return (defined.map (·.1), keys)

end PivotedQuery.Sql
