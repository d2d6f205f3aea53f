import QueryTemplate.Text.Basic

/-! # Decimal text of numbers

Natural numbers and integers are written without leading zeros, fractions without trailing zeros
and without an exponent.
-/
namespace QueryTemplate.Decimal

/-- The canonical decimal digits of a natural number. -/
def ofNat (value : Nat) : Text := Nat.toDigits 10 value

def value (digits : Text) : Nat := Nat.ofDigitChars 10 digits 0

/-- The canonical decimal text of an integer: a minus sign in front of a negative one. -/
def ofInt (value : Int) : Text :=
  if value < 0 then '-' :: ofNat value.natAbs else ofNat value.natAbs

/-- The lowest `places` decimal digits, the lowest first. -/
def lowDigits : Nat → Nat → List Nat
  | 0, _ => []
  | places + 1, value => value % 10 :: lowDigits places (value / 10)

/-- The digits of a fraction of `places` places, without the zeros at its end. -/
def fractionDigits (places value : Nat) : Text :=
  (((lowDigits places value).dropWhile (· == 0)).map Nat.digitChar).reverse

/-- The text of `numerator / 10 ^ places`: all digits before the point, and the point only when
a digit other than zero follows it. -/
def positional (numerator places : Nat) : Text :=
  let whole := ofNat (numerator / Nat.pow 10 places)
  match fractionDigits places numerator with
  | [] => whole
  | digit :: digits => whole ++ '.' :: digit :: digits

theorem ofNat_ne_nil (value : Nat) : ofNat value ≠ [] := Nat.toDigits_ne_nil

theorem isDigit_of_mem_ofNat {value : Nat} {character : Char}
    (member : character ∈ ofNat value) : character.isDigit = true :=
  Nat.isDigit_of_mem_toDigits (by decide) (by decide) member

/-- Reading back the decimal digits of a number gives the number. -/
@[simp] theorem value_ofNat (number : Nat) : value (ofNat number) = number := by
  simp [value, ofNat, Nat.ofDigitChars_ten_toDigits]

end QueryTemplate.Decimal
