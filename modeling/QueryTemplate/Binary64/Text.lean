import QueryTemplate.Binary64.Rounding
import QueryTemplate.Binary64.Shortest

/-! # Texts of binary64 numbers

A finite number is written with the fewest digits that read back as it, without an exponent, and
with the sign of a zero. The other values have names of their own.
-/
namespace QueryTemplate.Binary64

def notNumberText : Text := ['N', 'a', 'N']

def infiniteText : Text := ['i', 'n', 'f']

def signed (negative : Bool) (text : Text) : Text := if negative then '-' :: text else text

def text : Binary64 → Text
  | .finite negative magnitude => signed negative magnitude.text
  | .infinite negative => signed negative infiniteText
  | .notNumber => notNumberText

/-- The value of a text: one of the three names, or a numeral and nothing else. -/
def ofText? (text : Text) : Option Binary64 :=
  if text = notNumberText then some .notNumber
  else if text = infiniteText then some (.infinite false)
  else if text = '-' :: infiniteText then some (.infinite true)
  else (Decimal.Numeral.ofText? text).map ofNumeral

end QueryTemplate.Binary64
