import PivotedQuery.Profile.Basic
import PivotedQuery.Text.Expect
/-!
The arguments of the command line, read from left to right. A value stands after its argument or is
attached to it; a value that stands alone does not begin with a dash. Nothing is given twice.
-/
namespace PivotedQuery

inductive Argument
  | config
  | dsn
  | database
  | seed
  | maxIterations
  | duration
  | prepared
  | hints
  | keepGoing
  | help
  | version
  deriving DecidableEq, Repr

namespace Argument

def all : List Argument :=
  [config, dsn, database, seed, maxIterations, duration, prepared, hints, keepGoing, help, version]

def long : Argument → String
  | config => "config"
  | dsn => "dsn"
  | database => "database"
  | seed => "seed"
  | maxIterations => "max-iterations"
  | duration => "duration"
  | prepared => "prepared"
  | hints => "hints"
  | keepGoing => "keep-going"
  | help => "help"
  | version => "version"

def short? : Argument → Option Char
  | config => some 'c'
  | seed => some 's'
  | maxIterations => some 'n'
  | duration => some 'd'
  | keepGoing => some 'k'
  | help => some 'h'
  | version => some 'V'
  | _ => none

def takesValue : Argument → Bool
  | config | dsn | database | seed | maxIterations | duration => true
  | _ => false

def purpose : Argument → String
  | config => "JSON profile to start from; what is given below overrides it"
  | dsn => "Path, \x60:memory:\x60 or \x60file:\x60 URI of the database under test"
  | database => "Name of the working database"
  | seed => "Random seed for deterministic execution"
  | maxIterations => "Stop after this many iterations"
  | duration => "Stop after this many seconds"
  | prepared => "Run queries through prepared statements"
  | hints => "Ask for full scans in synthesized queries"
  | keepGoing => "Log and count infrastructure faults instead of stopping"
  | help => "Print help"
  | version => "Print version"

def ofLong? (name : String) : Option Argument := all.find? (·.long == name)

def ofShort? (c : Char) : Option Argument := all.find? (·.short? == some c)

def usageLine (a : Argument) : String :=
  let short := match a.short? with
    | some c => "-" ++ String.singleton c ++ ", "
    | none => "    "
  let value := if a.takesValue then " <" ++ Text.upper a.long ++ ">" else ""
  "  " ++ short ++ "--" ++ a.long ++ value ++ "  " ++ a.purpose

end Argument

inductive UsageError
  | unexpected (token : String)
  | missingValue (a : Argument)
  | needlessValue (a : Argument)
  | repeated (a : Argument)
  | badValue (a : Argument) (value : String)
  deriving DecidableEq

def UsageError.message : UsageError → String
  | unexpected token => "unexpected argument " ++ Text.escaped token
  | missingValue a => "a value is required for --" ++ a.long
  | needlessValue a => "--" ++ a.long ++ " takes no value"
  | repeated a => "--" ++ a.long ++ " is given more than once"
  | badValue a value => "invalid value " ++ Text.escaped value ++ " for --" ++ a.long

/-- What the command line asks for. -/
structure Options where
  config : Option String := none
  dsn : Option String := none
  database : Option String := none
  seed : Option UInt64 := none
  maxIterations : Option Nat := none
  /-- In seconds. -/
  duration : Option Nat := none
  prepared : Bool := false
  hints : Bool := false
  keepGoing : Bool := false
  deriving DecidableEq

/-- Reasons not to start a session. -/
inductive Stop
  | help
  | version
  | usage (e : UsageError)
  deriving DecidableEq

/-- Digits after an optional plus sign, within 64 bits. -/
def wordOf? (s : String) : Option Nat :=
  let digits := match s.toList with
    | '+' :: rest => rest
    | cs => cs
  let n := Text.digitsValue digits
  if digits.isEmpty || !digits.all Text.isDigit || twoTo 64 ≤ n then none else some n

namespace Options

/-- What has been read, and the argument that waits for its value. -/
structure Progress where
  options : Options := {}
  given : List Argument := []
  waiting : Option Argument := none

namespace Progress

variable {α : Type}

def refuse (e : UsageError) : Except Stop α := .error (.usage e)

def number (a : Argument) (value : String) : Except Stop Nat :=
  match wordOf? value with
  | some n => .ok n
  | none => refuse (.badValue a value)

def setValue (o : Options) (a : Argument) (value : String) : Except Stop Options :=
  match a with
  | .config =>
    if value.isEmpty then refuse (.badValue a value) else .ok { o with config := some value }
  | .dsn => .ok { o with dsn := some value }
  | .database => .ok { o with database := some value }
  | .seed => return { o with seed := some (UInt64.ofNat (← number a value)) }
  | .maxIterations => return { o with maxIterations := some (← number a value) }
  | .duration => return { o with duration := some (← number a value) }
  | _ => refuse (.needlessValue a)

def setSwitch (o : Options) : Argument → Except Stop Options
  | .prepared => .ok { o with prepared := true }
  | .hints => .ok { o with hints := true }
  | .keepGoing => .ok { o with keepGoing := true }
  | .help => .error .help
  | .version => .error .version
  | a => refuse (.missingValue a)

def note (p : Progress) (a : Argument) (options : Options) : Except Stop Progress :=
  if p.given.contains a then refuse (.repeated a)
  else .ok { options, given := a :: p.given, waiting := none }

def takeValue (p : Progress) (a : Argument) (value : String) : Except Stop Progress := do
  p.note a (← setValue p.options a value)

def takeSwitch (p : Progress) (a : Argument) : Except Stop Progress := do
  p.note a (← setSwitch p.options a)

def settled (p : Progress) : Except Stop Progress :=
  match p.waiting with
  | some a => refuse (.missingValue a)
  | none => .ok p

/-- The text after two dashes: a name, or a name and a value. -/
def takeLong (p : Progress) (token : String) (text : List Char) : Except Stop Progress :=
  let name := text.takeWhile (· ≠ '=')
  match Argument.ofLong? (String.ofList name), text.dropWhile (· ≠ '=') with
  | none, _ => refuse (.unexpected token)
  | some a, [] => if a.takesValue then .ok { p with waiting := some a } else p.takeSwitch a
  | some a, _ :: value =>
    if a.takesValue then p.takeValue a (String.ofList value) else refuse (.needlessValue a)

/-- The text after one dash: switches, and at the end one argument with what is left as value. -/
def takeShort (token : String) : List Char → Progress → Except Stop Progress
  | [], p => .ok p
  | c :: rest, p =>
    match Argument.ofShort? c with
    | none => refuse (.unexpected token)
    | some a =>
      if a.takesValue then
        match rest with
        | [] => .ok { p with waiting := some a }
        | '=' :: value => p.takeValue a (String.ofList value)
        | value => p.takeValue a (String.ofList value)
      else do takeShort token rest (← p.takeSwitch a)

def takePlain (p : Progress) (token : String) : Except Stop Progress :=
  match p.waiting with
  | some a => p.takeValue a token
  | none => refuse (.unexpected token)

def take (p : Progress) (token : String) : Except Stop Progress :=
  match token.toList with
  | '-' :: '-' :: text => do (← p.settled).takeLong token text
  | '-' :: c :: text => do takeShort token (c :: text) (← p.settled)
  | _ => p.takePlain token

/-- After two dashes alone nothing is an argument. -/
def takeAll : List String → Progress → Except Stop Progress
  | [], p => p.settled
  | token :: rest, p =>
    if token = "--" then
      match rest with
      | [] => p.settled
      | extra :: _ => refuse (.unexpected extra)
    else do takeAll rest (← p.take token)

end Progress

def parse (args : List String) : Except Stop Options :=
  (Progress.takeAll args {}).map (·.options)

/-- The profile with what the command line says in place of what it says itself. -/
def override (o : Options) (p : Profile) : Profile :=
  { p with
    dataSource := o.dsn.getD p.dataSource
    database := o.database.getD p.database
    seed := o.seed <|> p.seed
    maxIterations := o.maxIterations <|> p.maxIterations
    prepared := p.prepared || o.prepared
    hints := p.hints || o.hints
    keepGoing := p.keepGoing || o.keepGoing }

end Options

end PivotedQuery
