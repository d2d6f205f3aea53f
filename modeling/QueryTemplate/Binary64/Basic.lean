import QueryTemplate.Text.Basic

/-! # Binary64 numbers

The finite magnitudes of the binary64 format in increasing order are numbered by their rank, which
is also their bit pattern. A magnitude is `significand * 2 ^ shift` units of `2 ^ -1074`, the
smallest positive one, so exact arithmetic on magnitudes is arithmetic on natural numbers.
-/
namespace QueryTemplate

/-- A finite nonnegative binary64 value, by its position in the order of such values. -/
structure Magnitude where
  rank : Nat
  rank_lt : rank < 2047 * Nat.pow 2 52
  deriving DecidableEq

namespace Magnitude

/-- The exponent of two that turns one into the number of units in it. -/
def unitExponent : Nat := 1074

/-- The integer that a magnitude scales by a power of two. -/
def significand (magnitude : Magnitude) : Nat :=
  if magnitude.rank < Nat.pow 2 52 then magnitude.rank
  else Nat.pow 2 52 + magnitude.rank % Nat.pow 2 52

/-- The power of two that scales the significand. -/
def shift (magnitude : Magnitude) : Nat := magnitude.rank / Nat.pow 2 52 - 1

/-- The exact value in units of `2 ^ -1074`. -/
def units (magnitude : Magnitude) : Nat := magnitude.significand * Nat.pow 2 magnitude.shift

def zero : Magnitude := ⟨0, by decide⟩

@[simp] theorem units_zero : zero.units = 0 := by decide

end Magnitude

/-- A binary64 value. The sign of a zero is kept, and all patterns that are not a number are one
value. -/
inductive Binary64
  | finite (negative : Bool) (magnitude : Magnitude)
  | infinite (negative : Bool)
  | notNumber
  deriving DecidableEq

namespace Binary64

/-- Zero with its sign bit clear. -/
def zero : Binary64 := .finite false .zero

def one : Binary64 := .finite false ⟨1023 * Nat.pow 2 52, by decide⟩

/-- A value is neither an infinity nor a non-number. -/
def isFinite : Binary64 → Bool
  | .finite _ _ => true
  | _ => false

/-- Numerical equality: the two zeros are equal, and what is not a number equals nothing. -/
def sameValue : Binary64 → Binary64 → Bool
  | .finite negative first, .finite otherNegative second =>
      first == second && (negative == otherNegative || first.rank == 0)
  | .infinite negative, .infinite otherNegative => negative == otherNegative
  | _, _ => false

/-- The value whose 64-bit pattern is given: the sign bit above the rank, the ranks past the
finite ones being the infinity and then the patterns that are not a number. -/
def ofBits (bits : UInt64) : Binary64 :=
  let negative := Nat.pow 2 63 ≤ bits.toNat
  let rank := bits.toNat % Nat.pow 2 63
  if finiteRank : rank < 2047 * Nat.pow 2 52 then .finite negative ⟨rank, finiteRank⟩
  else if rank = 2047 * Nat.pow 2 52 then .infinite negative
  else .notNumber

/-- The integer part of a finite value, toward zero. -/
def truncate (negative : Bool) (magnitude : Magnitude) : Int :=
  let whole := magnitude.units / Nat.pow 2 Magnitude.unitExponent
  if negative then -(whole : Int) else whole

end Binary64
end QueryTemplate
