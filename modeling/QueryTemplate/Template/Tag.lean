import QueryTemplate.Text.Basic

/-! # Placeholder tags

A placeholder is a question mark and an optional tag letter that says how its argument is written.
-/
namespace QueryTemplate

/-- How the argument of a placeholder is written. -/
inductive Tag
  /-- A literal chosen by the kind of the argument. -/
  | auto
  /-- An identifier or a list of identifiers. -/
  | identifier
  /-- A list of values or of assignments. -/
  | list
  | integer
  | float
  deriving DecidableEq

namespace Tag

def ofLetter? (letter : Char) : Option Tag :=
  if letter = '#' then some .identifier
  else if letter = 'a' then some .list
  else if letter = 'd' then some .integer
  else if letter = 'f' then some .float
  else none

def written : Tag → Text
  | .auto => ['?']
  | .identifier => ['?', '#']
  | .list => ['?', 'a']
  | .integer => ['?', 'd']
  | .float => ['?', 'f']

end Tag
end QueryTemplate
