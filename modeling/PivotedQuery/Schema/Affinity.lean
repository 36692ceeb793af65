import PivotedQuery.Text.Upper
import PivotedQuery.Text.Blank
/-!
Column affinity, derived from the declared type by the first rule that fits.
-/
namespace PivotedQuery

inductive Affinity
  | integer
  | real
  | numeric
  | text
  | blob
  deriving DecidableEq, Repr

def Text.contains (part whole : List Char) : Bool :=
  part.isPrefixOf whole || match whole with
    | [] => false
    | _ :: rest => contains part rest

namespace Affinity

def hasAny (upper : List Char) (words : List String) : Bool :=
  words.any fun w => Text.contains w.toList upper

/-- The rules are tried in order, on a type in capitals; one of blanks only asks for nothing. -/
def ofCapitals (isBlank : Char → Bool) (upper : List Char) : Affinity :=
  if hasAny upper ["INT"] then integer
  else if hasAny upper ["CHAR", "CLOB", "TEXT"] then text
  else if hasAny upper ["BLOB"] || upper.all isBlank then blob
  else if hasAny upper ["REAL", "FLOA", "DOUB"] then real
  else numeric

def ofDeclaredType (declared : String) : Affinity :=
  ofCapitals Text.isBlank (Text.upper declared).toList

end Affinity

end PivotedQuery
