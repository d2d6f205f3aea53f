import QueryTemplate.Binary64.Basic
import QueryTemplate.Decimal.Numeral

/-! # Rounding to binary64

A nonnegative quotient is rounded to the nearest magnitude, a tie to the even significand, and to
the infinity from half a step above the largest magnitude on. Products and quotients of magnitudes,
integers, decimal numerals and the narrower 32-bit format are rounded through this one function.
-/
namespace QueryTemplate

/-- The integer nearest to a quotient, a tie going to the even one. -/
def roundHalfEven (numerator denominator : Nat) : Nat :=
  let quotient := numerator / denominator
  let twice := 2 * (numerator % denominator)
  if twice < denominator ∨ (twice = denominator ∧ quotient % 2 = 0) then quotient
  else quotient + 1

namespace Magnitude

/-- The rank nearest to `units / denominator` units. The step between neighbours is the power of two
that leaves a quotient of at most fifty-three bits, and each step starts `2 ^ 52` ranks after the
one below it, so a quotient that rounds up to the next power of two still has the right rank. -/
def nearestRank (units denominator : Nat) : Nat :=
  let shift := (units / denominator).log2 - 52
  shift * Nat.pow 2 52 + roundHalfEven units (denominator * Nat.pow 2 shift)

/-- The magnitude nearest to `numerator / denominator`, none when that is the infinity. -/
def nearest? (numerator denominator : Nat) : Option Magnitude :=
  let rank := nearestRank (numerator * Nat.pow 2 unitExponent) denominator
  if finiteRank : rank < 2047 * Nat.pow 2 52 then some ⟨rank, finiteRank⟩ else none

def times? (first second : Magnitude) : Option Magnitude :=
  nearest? (first.units * second.units) (Nat.pow 2 (2 * unitExponent))

def over? (first second : Magnitude) : Option Magnitude := nearest? first.units second.units

end Magnitude

namespace Binary64

/-- A magnitude with a sign, or the infinity of that sign when there is none. -/
def ofMagnitude? (negative : Bool) : Option Magnitude → Binary64
  | some magnitude => .finite negative magnitude
  | none => .infinite negative

/-- The value nearest to `± numerator / denominator`. -/
def ofRatio (negative : Bool) (numerator denominator : Nat) : Binary64 :=
  ofMagnitude? negative (Magnitude.nearest? numerator denominator)

def ofInt (value : Int) : Binary64 := ofRatio (value < 0) value.natAbs 1

/-- The value nearest to `± coefficient * 10 ^ exponent`. The first two cases only spare the large
powers of ten: from `10 ^ 309` on everything is infinite, and below `10 ^ -324` everything is
nearest to zero, a coefficient of `b` bits being less than `10 ^ b`. -/
def ofScientific (negative : Bool) (coefficient : Nat) (exponent : Int) : Binary64 :=
  if coefficient = 0 ∨ exponent + coefficient.log2 + 1 < -324 then .finite negative .zero
  else if 309 ≤ exponent then .infinite negative
  else ofRatio negative (coefficient * Nat.pow 10 exponent.toNat) (Nat.pow 10 (-exponent).toNat)

def ofNumeral (numeral : Decimal.Numeral) : Binary64 :=
  ofScientific numeral.negative numeral.coefficient numeral.exponent

/-- The value whose 32-bit pattern is given. Every number of the narrower format is one of the
wider: its significand of 24 bits counts units of `2 ^ -149`. -/
def ofSingleBits (bits : UInt32) : Binary64 :=
  let negative : Bool := Nat.pow 2 31 ≤ bits.toNat
  let rank := bits.toNat % Nat.pow 2 31
  let field := rank / Nat.pow 2 23
  let fraction := rank % Nat.pow 2 23
  if field = 255 then if fraction = 0 then .infinite negative else .notNumber
  else
    let significand := if field = 0 then fraction else Nat.pow 2 23 + fraction
    ofRatio negative (significand * Nat.pow 2 (field - 1)) (Nat.pow 2 149)

end Binary64
end QueryTemplate
