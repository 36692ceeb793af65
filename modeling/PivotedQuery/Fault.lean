import PivotedQuery.Schema.Table
import PivotedQuery.Text.Escaped
/-!
What can go wrong around the containment check, by cause, with the message of each cause and the
messages of the causes below it.
-/
namespace PivotedQuery

inductive SchemaError
  | unknownDatabase (name : String)
  | query (what cause : String)
  deriving DecidableEq

inductive ExecutionError
  | openFailed (dataSource cause : String)
  | failed (sql cause : String)
  | interrupted (sql : String)
  deriving DecidableEq

inductive PivotError
  | noTables
  | duplicateKey (key : ColumnKey)
  | rowShape (table : String) (expected actual : Nat)
  | execution (e : ExecutionError)
  deriving DecidableEq

inductive SynthesisError
  | noTables
  | noColumns
  | unknownColumn (key : ColumnKey)
  | missingPivotValue (key : ColumnKey)
  deriving DecidableEq

inductive GenerationError
  | noTable (purpose : String)
  | noColumns (table : String)
  deriving DecidableEq

inductive Unreadable
  | notFound
  | notText
  deriving DecidableEq

/-- What a text lacks: its end, the grammar, or the expected types, names and ranges. -/
inductive Flaw
  | eof
  | syntactic
  | data
  deriving DecidableEq

inductive ProfileError
  | unreadable (path : String) (cause : Unreadable)
  | malformed (path : String) (flaw : Flaw)
  | invalid (reason : String)
  deriving DecidableEq

/-- A fault of the machinery, as opposed to a bug found in the database. -/
inductive Fault
  | schema (e : SchemaError)
  | execution (e : ExecutionError)
  | pivot (e : PivotError)
  | synthesis (e : SynthesisError)
  | profile (e : ProfileError)
  deriving DecidableEq

namespace SchemaError

def message : SchemaError → String
  | unknownDatabase name => "unknown database " ++ Text.escaped name
  | query what _ => "failed to fetch " ++ what

def causes : SchemaError → List String
  | unknownDatabase _ => []
  | query _ cause => [cause]

end SchemaError

namespace ExecutionError

def message : ExecutionError → String
  | openFailed dataSource _ => "failed to open data source " ++ Text.escaped dataSource
  | failed sql _ => "failed to execute \x60" ++ sql ++ "\x60"
  | interrupted sql => "execution of \x60" ++ sql ++ "\x60 was interrupted"

def causes : ExecutionError → List String
  | openFailed _ cause => [cause]
  | failed _ cause => [cause]
  | interrupted _ => []

end ExecutionError

namespace PivotError

def message : PivotError → String
  | noTables => "no tables to choose a pivot from"
  | duplicateKey key => "pivot row already holds a value for " ++ key.text
  | rowShape table expected actual =>
    "table " ++ table ++ " returned " ++ toString actual ++ " cells but the snapshot has " ++
      toString expected ++ " columns"
  | execution e => e.message

def causes : PivotError → List String
  | execution e => e.causes
  | _ => []

end PivotError

def SynthesisError.message : SynthesisError → String
  | noTables => "cannot synthesize a query without tables"
  | noColumns => "the chosen tables have no columns"
  | unknownColumn key => "query references unknown column " ++ key.text
  | missingPivotValue key => "pivot row has no value for output column " ++ key.text

def GenerationError.message : GenerationError → String
  | noTable purpose => "no table available for " ++ purpose
  | noColumns table => "table " ++ table ++ " has no columns"

def Unreadable.message : Unreadable → String
  | notFound => "no such file"
  | notText => "the file is not text"

def Flaw.message : Flaw → String
  | eof => "the text ends early"
  | syntactic => "the text is not well formed"
  | data => "a value does not fit"

namespace ProfileError

def message : ProfileError → String
  | unreadable path _ => "failed to read config file " ++ path
  | malformed path _ => "failed to parse config file " ++ path
  | invalid reason => "invalid config: " ++ reason

def causes : ProfileError → List String
  | unreadable _ cause => [cause.message]
  | malformed _ flaw => [flaw.message]
  | invalid _ => []

end ProfileError

namespace Fault

def message : Fault → String
  | schema e => e.message
  | execution e => e.message
  | pivot e => e.message
  | synthesis e => e.message
  | profile e => e.message

def causes : Fault → List String
  | schema e => e.causes
  | execution e => e.causes
  | pivot e => e.causes
  | synthesis _ => []
  | profile e => e.causes

end Fault

end PivotedQuery
