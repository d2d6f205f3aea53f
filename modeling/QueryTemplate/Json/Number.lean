import QueryTemplate.Binary64.Rounding
import QueryTemplate.Json.Basic

/-! # Reading JSON numbers

An integer that fits sixty-four bits is read exactly. Any other number is read as a real: as many
leading digits as fit sixty-four bits form an integer, which is rounded, and then multiplied or
divided by the rounded power of ten that the place of those digits and the exponent call for. The
result is rounded twice and may miss the nearest real by a unit in the last place.
-/
namespace QueryTemplate.Json.Number

/-- Appends digits to a natural number as long as the result fits sixty-four bits, and returns the
digits that were left. -/
def appendDigits (leading : Nat) : Text → Nat × Text
  | [] => (leading, [])
  | digit :: rest =>
      let longer := 10 * leading + (digit.toNat - '0'.toNat)
      if longer < Nat.pow 2 64 then appendDigits longer rest else (leading, digit :: rest)

/-- The largest power of ten used in one multiplication or division. -/
def largestPower : Nat := 308

def tenPower? (power : Nat) : Option Magnitude := Magnitude.nearest? (Nat.pow 10 power) 1

def overTenPower? (magnitude : Magnitude) (power : Nat) : Option Magnitude :=
  (tenPower? power).bind magnitude.over?

/-- Divides `steps` times by the largest power and then by one more, stopping early at zero. -/
def scaleDownSteps? (magnitude : Magnitude) (last : Nat) : Nat → Option Magnitude
  | 0 => overTenPower? magnitude last
  | steps + 1 =>
      if magnitude = .zero then some magnitude
      else
        match overTenPower? magnitude largestPower with
        | some quotient => scaleDownSteps? quotient last steps
        | none => none

/-- Divides by a power of ten, in as few steps as there can be. -/
def scaleDown? (magnitude : Magnitude) (power : Nat) : Option Magnitude :=
  let steps := (power - 1) / largestPower
  scaleDownSteps? magnitude (power - steps * largestPower) steps

/-- Multiplies by a power of ten, which must not exceed `10 ^ 308` unless the number is zero. -/
def scaleUp? (magnitude : Magnitude) (power : Nat) : Option Magnitude :=
  if power ≤ largestPower then (tenPower? power).bind magnitude.times?
  else if magnitude = .zero then some magnitude
  else none

/-- A significand times a power of ten, none when that is too large for a real. -/
def scaled? (significand : Nat) (exponent : Int) : Option Magnitude :=
  match Magnitude.nearest? significand 1 with
  | none => none
  | some magnitude =>
      if 0 ≤ exponent then scaleUp? magnitude exponent.toNat
      else scaleDown? magnitude (-exponent).toNat

/-- The number of an integer literal. A negative zero, and an integer beyond sixty-four bits, are
reals. -/
def ofInteger? (negative : Bool) (absolute : Nat) : Option Number :=
  if negative = true ∧ 0 < absolute ∧ absolute ≤ Nat.pow 2 63 then
    some (.int (Int64.ofInt (-absolute)))
  else if negative = false ∧ absolute < Nat.pow 2 63 then some (.int (Int64.ofNat absolute))
  else if unsigned : negative = false ∧ Nat.pow 2 63 ≤ absolute ∧ absolute < Nat.pow 2 64 then
    some (.large absolute unsigned.2.1 unsigned.2.2)
  else (Magnitude.nearest? absolute 1).map (.real negative)

/-- The number of a literal: its digits before and after the point, and its exponent. -/
def ofLiteral? (negative : Bool) (whole fraction : Text) (exponent : Option Int) :
    Option Number :=
  let (leading, dropped) := appendDigits 0 whole
  if dropped = [] ∧ fraction = [] ∧ exponent = none then ofInteger? negative leading
  else
    let (significand, ignored) := appendDigits leading fraction
    let appended := fraction.length - ignored.length
    (scaled? significand (exponent.getD 0 + dropped.length - appended)).map (.real negative)

/-- The digits of an integer at the start of a text, and the text after them. A leading zero is
the only digit. -/
def readWhole? (text : Text) : Option (Text × Text) :=
  match text with
  | '0' :: rest => some (['0'], rest)
  | text =>
      match Decimal.readDigits text with
      | ([], _) => none
      | (digits, rest) => some (digits, rest)

/-- The digits of a fraction at the start of a text, and the text after them. A point without a
digit after it is left, and no JSON text continues with one. -/
def readFraction (text : Text) : Text × Text :=
  match Decimal.readFraction text with
  | ([], _) => ([], text)
  | (digits, rest) => (digits, rest)

def read? (text : Text) : Option (Number × Text) :=
  let (negative, unsigned) :=
    match text with
    | '-' :: rest => (true, rest)
    | text => (false, text)
  match readWhole? unsigned with
  | none => none
  | some (whole, afterWhole) =>
      let (fraction, afterFraction) := readFraction afterWhole
      let (exponent, rest) := Decimal.readExponent afterFraction
      (ofLiteral? negative whole fraction exponent).map (·, rest)

end QueryTemplate.Json.Number
