import QueryTemplate.Binary64.Rounding
import QueryTemplate.Rendering.Basic

/-! # How arguments are written

The rules for each tag. Text is quoted under the general tags and read as a number under the numeric
ones; numbers are written bare; collections are written only under the tags for lists. A request to
skip is found before the rules for single values are asked, which would refuse it.
-/
namespace QueryTemplate.Argument

def nullText : Text := ['N', 'U', 'L', 'L']

/-- The refusal of an argument for its kind. -/
def refuse (argument : Argument) : Rendering := .unsupported (.kind argument.kind)

/-- The rendering of an argument, unless the argument asks to skip. -/
def unlessSkip (argument : Argument) (rendering : Rendering) : Rendering :=
  if argument.isSkip then .skipped else rendering

/-- A float is written when it is finite. -/
def renderFloat (value : Binary64) : Rendering :=
  if value.isFinite then .bare value.text else .unsupported (.nonFinite value)

/-- A value that is written without quotes, in the same way as a value and as an identifier. -/
def renderBare : Argument → Rendering
  | .null => .bare nullText
  | .bool value => .bare [if value then '1' else '0']
  | .int value => .bare (Decimal.ofInt value.toInt)
  | .float value => renderFloat value
  | argument => argument.refuse

/-- A single value, with text as the given kind of fragment. -/
def renderScalar (quoted : Text → Fragment) : Argument → Rendering
  | .text value => .complete [quoted value]
  | argument => renderBare argument

/-- The integer that text stands for: the one it starts with after blanks, as far as it fits. -/
def integerOfText (value : Text) : Int64 :=
  Int64.ofIntClamp (Decimal.leadingInteger value.trimStart)

/-- The float that text stands for: the numeral it starts with after blanks, zero without one. -/
def floatOfText (value : Text) : Binary64 :=
  match Decimal.Numeral.read? value.trimStart with
  | some (numeral, _) => .ofNumeral numeral
  | none => .zero

/-- A value as an integer. A float loses its fraction, and is cut to sixty-four bits. -/
def renderInteger : Argument → Rendering
  | .null => .bare nullText
  | .bool value => .bare [if value then '1' else '0']
  | .int value => .bare (Decimal.ofInt value.toInt)
  | .float (.finite negative magnitude) =>
      .bare (Decimal.ofInt (Int64.ofIntClamp (Binary64.truncate negative magnitude)).toInt)
  | .float value => .unsupported (.nonFinite value)
  | .text value => .bare (Decimal.ofInt (integerOfText value).toInt)
  | argument => argument.refuse

/-- A value as a float. An integer goes to the nearest one. -/
def renderReal : Argument → Rendering
  | .null => .bare nullText
  | .bool value => renderFloat (if value then .one else .zero)
  | .int value => renderFloat (.ofInt value.toInt)
  | .float value => renderFloat value
  | .text value => renderFloat (floatOfText value)
  | argument => argument.refuse

/-- What precedes the value of an entry: nothing under a positional key, and otherwise the name of
the column and an equals sign. -/
def entryLabel (key : Key) : List Fragment :=
  match key with
  | .index _ => []
  | .name column => if key.isPositional then [] else [.identifier column, .bare [' ', '=', ' ']]

/-- An entry as an identifier, whatever its key. -/
def renderName (entry : Key × Argument) : Rendering :=
  entry.2.unlessSkip (renderScalar .identifier entry.2)

/-- An entry as a value or an assignment. A skip comes before its label. -/
def renderEntry (entry : Key × Argument) : Rendering :=
  entry.2.unlessSkip
    ((Rendering.complete (entryLabel entry.1)).andThen (renderScalar .literal entry.2))

/-- An argument under a tag. -/
def render (tag : Tag) (argument : Argument) : Rendering :=
  argument.unlessSkip
    (match tag, argument with
    | .auto, argument => renderScalar .literal argument
    | .integer, argument => renderInteger argument
    | .float, argument => renderReal argument
    | .identifier, .collection entries => .commaSeparated (entries.map renderName)
    | .identifier, argument => renderScalar .identifier argument
    | .list, .collection entries => .commaSeparated (entries.map renderEntry)
    | .list, argument => argument.refuse)

end QueryTemplate.Argument
