import PivotedQuery.Text.Printable
import PivotedQuery.Text.Hex
/-!
Text between double quotes with backslash escapes, as messages show names and paths.
-/
namespace PivotedQuery.Text

def escapeChar (c : Char) : String :=
  match c with
  | '\x00' => "\\0"
  | '\t' => "\\t"
  | '\n' => "\\n"
  | '\r' => "\\r"
  | '\\' => "\\\\"
  | '\x22' => "\\\""
  | c => if isPrintable c then c.toString else "\\u\x7b" ++ hexNat c.toNat ++ "\x7d"

def escaped (s : String) : String :=
  "\"" ++ String.join (s.toList.map escapeChar) ++ "\""

end PivotedQuery.Text
