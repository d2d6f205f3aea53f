import QueryTemplate.Text.Basic

/-! # Blank characters

The twenty-five characters with the Unicode property White_Space, and the text without the blank
runs at its ends. Separators such as U+001C, and the zero-width U+200B and U+FEFF, are not blank.
-/
namespace QueryTemplate.Text

/-- The ranges of code points, ends included, that carry the property White_Space. -/
def blankRanges : List (Nat × Nat) :=
  [(0x0009, 0x000D), (0x0020, 0x0020), (0x0085, 0x0085), (0x00A0, 0x00A0), (0x1680, 0x1680),
    (0x2000, 0x200A), (0x2028, 0x2029), (0x202F, 0x202F), (0x205F, 0x205F), (0x3000, 0x3000)]

/-- A character is blank when its code point lies in one of the blank ranges. -/
def isBlank (character : Char) : Bool :=
  blankRanges.any fun range => range.1 ≤ character.toNat && character.toNat ≤ range.2

/-- The text from its first character that is not blank. -/
def trimStart (text : Text) : Text := text.dropWhile isBlank

/-- The text between its first and its last character that is not blank. -/
def trim (text : Text) : Text := (trimStart text).dropWhileRight isBlank

theorem isBlank_of_isDigit {character : Char} (digit : character.isDigit = true) :
    isBlank character = false := by
  rw [Char.isDigit_iff_toNat] at digit
  have lower := digit.1
  have upper := digit.2
  have zeroCode : '0'.toNat = 48 := rfl
  have nineCode : '9'.toNat = 57 := rfl
  simp [isBlank, blankRanges]
  omega

end QueryTemplate.Text
