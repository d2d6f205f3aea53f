import QueryTemplate.Text.Basic

/-! # Escapers

An escaper turns raw text into a form that is safe between single quotes. The caller supplies one;
the two here need no database connection.
-/
namespace QueryTemplate

/-- Raw text to its escaped form. -/
abbrev Escaper := Text → Text

namespace Escaper

/-- The backslash escape of a character that MySQL treats specially in a string. -/
def mysqlEscape (character : Char) : Text :=
  if character = '\x00' then ['\\', '0']
  else if character = '\n' then ['\\', 'n']
  else if character = '\r' then ['\\', 'r']
  else if character = '\\' then ['\\', '\\']
  else if character = '\'' then ['\\', '\'']
  else if character = '"' then ['\\', '"']
  else if character = '\x1a' then ['\\', 'Z']
  else [character]

def mysql : Escaper := fun raw => raw.flatMap mysqlEscape

/-- Doubles every single quote and leaves all else. -/
def standard : Escaper := fun raw =>
  raw.flatMap fun character => if character = '\'' then ['\'', '\''] else [character]

end Escaper
end QueryTemplate
