import ShaderWeave.Text.Hexadecimal
import ShaderWeave.Text.Printable

/-!
# Quoted text

A name in a description stands between double quotes.  Quote and backslash are escaped by a
backslash, the usual control characters by a letter, and whatever has no visible form of its own by
its code point in braces.  A single quote needs no escape.
-/

namespace ShaderWeave.Text

/-- One character of a quoted text. -/
def quoteChar (c : Char) : String :=
  match c with
  | '\x00' => "\\0"
  | '\t' => "\\t"
  | '\r' => "\\r"
  | '\n' => "\\n"
  | '\\' => "\\\\"
  | '"' => "\\\""
  | c => if isPrintable c then c.toString else "\\u\x7b" ++ hex c.toNat ++ "\x7d"

/-- A text between double quotes, with escapes. -/
def quote (text : String) : String :=
  "\"" ++ String.join (text.toList.map quoteChar) ++ "\""

end ShaderWeave.Text
