import PivotedQuery.Sql.Reader
/-!
What stands between the words of a statement, and the words.
-/
namespace PivotedQuery.Sql

open Reader

def isBlank (c : Char) : Bool := c = ' ' || c = '\t' || c = '\n' || c = '\x0c' || c = '\r'

/-- What follows the end of a comment. -/
def afterComment : List Char → List Char
  | '*' :: '/' :: cs => cs
  | _ :: cs => afterComment cs
  | [] => []

/-- What follows blanks, a comment or a byte order mark. A vertical tab needs a blank before it. -/
def skipBlank? : List Char → Option (List Char)
  | '-' :: '-' :: cs => some (cs.dropWhile (· ≠ '\n'))
  | '/' :: '*' :: c :: cs => some (afterComment (c :: cs))
  | '\uFEFF' :: cs => some cs
  | c :: cs => if isBlank c then some (cs.dropWhile fun d => isBlank d || d = '\x0b') else none
  | [] => none

def skipBlanksUpTo : (fuel : Nat) → List Char → List Char
  | 0, cs => cs
  | fuel + 1, cs =>
    match skipBlank? cs with
    | some rest => skipBlanksUpTo fuel rest
    | none => cs

def blanks : Reader Unit := fun cs => some ((), skipBlanksUpTo cs.length cs)

/-- Letters are those of ASCII and whatever lies beyond it. -/
def isLetter (c : Char) : Bool := c.isAlpha || c = '_' || 127 < c.toNat

def isWordPart (c : Char) : Bool := isLetter c || c.isDigit || c = '$'

/-- Words that cannot be part of a name. -/
def reservedWords : List String := [
  "ADD", "ALL", "ALTER", "AND", "AS", "AUTOINCREMENT", "BETWEEN", "CASE", "CHECK", "COLLATE",
  "COMMIT", "CONSTRAINT", "CREATE", "CROSS", "DEFAULT", "DEFERRABLE", "DELETE", "DISTINCT", "DROP",
  "ELSE", "ESCAPE", "EXCEPT", "EXISTS", "FOREIGN", "FROM", "FULL", "GROUP", "HAVING", "IN", "INDEX",
  "INDEXED", "INNER", "INSERT", "INTERSECT", "INTO", "IS", "ISNULL", "JOIN", "LEFT", "LIMIT",
  "NATURAL", "NOT", "NOTHING", "NOTNULL", "NULL", "ON", "OR", "ORDER", "OUTER", "PRIMARY",
  "REFERENCES", "RETURNING", "RIGHT", "SELECT", "SET", "TABLE", "THEN", "TO", "TRANSACTION",
  "UNION", "UNIQUE", "UPDATE", "USING", "VALUES", "WHEN", "WHERE"]

def capitals (cs : List Char) : String := String.ofList (cs.map Char.toUpper)

/-- A word that is not reserved. An X before a quote begins no word. -/
def plainWord : Reader Unit := fun cs =>
  let w := cs.takeWhile isWordPart
  let rest := cs.dropWhile isWordPart
  if !cs.head?.any isLetter || reservedWords.contains (capitals w) then none
  else if capitals w = "X" && rest.head? = some '\x27' then none
  else some ((), rest)

def keyword (w : String) : Reader Unit := fun cs =>
  if capitals (cs.takeWhile isWordPart) = w then some ((), cs.dropWhile isWordPart) else none

/-- Text between quotes of any kind, and what follows. -/
def readQuoted : List Char → Option (List Char × List Char)
  | '[' :: cs => if cs.contains ']' then some (cs.takeWhile (· ≠ ']'), (cs.dropWhile (· ≠ ']')).drop 1)
      else none
  | c :: cs => if ['\x22', '\x27', '\x60'].contains c then Text.readDoubled c cs else none
  | [] => none

def nameWord : Reader Unit :=
  either (fun cs => (readQuoted cs).map fun (_, rest) => ((), rest)) plainWord

end PivotedQuery.Sql
