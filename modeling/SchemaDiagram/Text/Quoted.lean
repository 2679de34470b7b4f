import SchemaDiagram.Text.Hexadecimal
import SchemaDiagram.Text.Invisible

/-!
# Quoted texts

The form in which a message quotes a text: between double quotes, with a backslash before
quotes and backslashes, short escapes for the usual control characters, and the code point in
hexadecimal for every other invisible character.
-/

namespace SchemaDiagram.Text

/-- A character as it stands in a quoted text. -/
def escapeChar (c : Char) : List Char :=
  if c = '\x00' then ['\\', '0']
  else if c = '\t' then ['\\', 't']
  else if c = '\n' then ['\\', 'n']
  else if c = '\r' then ['\\', 'r']
  else if c = '"' then ['\\', '"']
  else if c = '\\' then ['\\', '\\']
  else if isInvisible c then ['\\', 'u', '\x7b'] ++ hexadecimal c.toNat ++ ['\x7d']
  else [c]

/-- **Quoting** a text. -/
def quote (s : String) : String :=
  "\"" ++ String.ofList (s.toList.flatMap escapeChar) ++ "\""

end SchemaDiagram.Text
