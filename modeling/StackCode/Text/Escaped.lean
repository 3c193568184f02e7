import StackCode.Text.Hex
import StackCode.Text.Printable

/-!
# Escaped text

Text between double quotes in which every character that cannot be printed on its
own is written as its code point in braces.

Main definition: `Text.escaped`.
-/

namespace StackCode.Text

/-- A character between quotes. -/
def escapedChar (c : Char) : String :=
  if c = '\x00' then "\\0"
  else if c = '\t' then "\\t"
  else if c = '\r' then "\\r"
  else if c = '\n' then "\\n"
  else if c = '"' then "\\\""
  else if c = '\\' then "\\\\"
  else if isPrintable c then c.toString
  else "\\u\x7b" ++ hex c.toNat ++ "\x7d"

/-- A text between quotes. -/
def escaped (text : String) : String :=
  "\"" ++ String.join (text.toList.map escapedChar) ++ "\""

end StackCode.Text
