/-! # Text

Text is a list of Unicode characters. Everything the library reads or writes is held in this
form, so a cut always falls between two characters.
-/
namespace QueryTemplate

/-- A finite sequence of Unicode characters. -/
abbrev Text := List Char

namespace Text

def ofString (literal : String) : Text := literal.toList

/-- The text without a run of characters satisfying `drop` at its end. -/
def dropWhileRight (drop : Char → Bool) (text : Text) : Text :=
  (text.reverse.dropWhile drop).reverse

end Text
end QueryTemplate
