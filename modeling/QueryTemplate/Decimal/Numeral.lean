import QueryTemplate.Decimal.Basic

/-! # Decimal numerals at the start of a text

A numeral is an optional sign, digits with an optional point among or around them, and an optional
exponent: `[+-]? (digits ['.' digit*] | '.' digits) [(e|E) [+-]? digits]`. Reading takes the longest
numeral the text starts with; an exponent mark without digits is left unread.
-/
namespace QueryTemplate.Decimal

/-- The exact value `± coefficient * 10 ^ exponent` that a numeral denotes. -/
structure Numeral where
  negative : Bool
  coefficient : Nat
  exponent : Int
  deriving DecidableEq

/-- An optional sign at the start of a text: whether it is a minus, and the text after it. -/
def readSign : Text → Bool × Text
  | '-' :: rest => (true, rest)
  | '+' :: rest => (false, rest)
  | text => (false, text)

/-- The longest run of digits at the start of a text, and the text after it. -/
def readDigits (text : Text) : Text × Text :=
  (text.takeWhile Char.isDigit, text.dropWhile Char.isDigit)

/-- The digits after a point at the start of a text, which may be none, and the text after them.
A text that does not start with a point has no such digits and is left as it is. -/
def readFraction : Text → Text × Text
  | '.' :: rest => readDigits rest
  | text => ([], text)

/-- The signed value of an exponent at the start of a text, and the text after it. Without a digit
after the mark and its sign there is no exponent, and all of the text is left. -/
def readExponent (text : Text) : Option Int × Text :=
  match text with
  | mark :: body =>
      if mark = 'e' ∨ mark = 'E' then
        match readSign body with
        | (negative, unsigned) =>
            match readDigits unsigned with
            | ([], _) => (none, text)
            | (digits, rest) =>
                (some (if negative then -(value digits : Int) else value digits), rest)
      else (none, text)
  | [] => (none, [])

/-- The longest numeral at the start of a text, and the text after it. -/
def Numeral.read? (text : Text) : Option (Numeral × Text) :=
  let (negative, unsigned) := readSign text
  let (whole, afterWhole) := readDigits unsigned
  let (fraction, afterFraction) := readFraction afterWhole
  if whole = [] ∧ fraction = [] then none
  else
    let (exponent, rest) := readExponent afterFraction
    some (⟨negative, value (whole ++ fraction), exponent.getD 0 - fraction.length⟩, rest)

/-- The numeral that a text is as a whole. -/
def Numeral.ofText? (text : Text) : Option Numeral :=
  match Numeral.read? text with
  | some (numeral, []) => some numeral
  | _ => none

/-- The integer `[+-]? digits` at the start of a text, zero when there is none. -/
def leadingInteger (text : Text) : Int :=
  let (negative, unsigned) := readSign text
  let magnitude := value (readDigits unsigned).1
  if negative then -(magnitude : Int) else magnitude

end QueryTemplate.Decimal
