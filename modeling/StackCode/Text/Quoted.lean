/-!
# Quoted text

Text between double quotes, with escapes for the quote, the backslash and the
characters that would break a line.

Main definition: `Text.quoted`.
-/

namespace StackCode.Text

/-- A character inside quotes. -/
def quotedChar (c : Char) : List Char :=
  if c = '"' then ['\\', '"']
  else if c = '\\' then ['\\', '\\']
  else if c = '\t' then ['\\', 't']
  else if c = '\n' then ['\\', 'n']
  else if c = '\r' then ['\\', 'r']
  else if c = '\x00' then ['\\', '0']
  else [c]

/-- The characters of a text between quotes. -/
def quotedChars (text : List Char) : List Char := '"' :: (text.flatMap quotedChar ++ ['"'])

/-- A text between quotes. -/
def quoted (text : String) : String := String.ofList (quotedChars text.toList)

end StackCode.Text
