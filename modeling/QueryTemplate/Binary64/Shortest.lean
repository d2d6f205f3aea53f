import QueryTemplate.Binary64.Basic
import QueryTemplate.Decimal.Basic

/-! # The shortest decimal text of a binary64 number

The real numbers that round to a magnitude form an interval around it. The text is the multiple of
the largest possible power of ten in that interval; of two such multiples the one nearer to the
magnitude is taken, and the larger at equal distance. It is written positionally.

All lengths are natural numbers of quarter steps of `10 ^ -1074`: a unit of `2 ^ -1074` is exactly
`5 ^ 1074` steps, and the ends of the interval lie on halves or quarters of units.
-/
namespace QueryTemplate.Magnitude

/-- The number of steps of `10 ^ -1074` in one unit of `2 ^ -1074`. -/
def stepsPerUnit : Nat := Nat.pow 5 unitExponent

def fourfold (magnitude : Magnitude) : Nat := 4 * magnitude.units * stepsPerUnit

/-- The distance down to the lower end of the interval, in quarter steps. Below a power of two the
neighbour is at half the distance, save where the step between neighbours is already the least. -/
def marginBelow (magnitude : Magnitude) : Nat :=
  let quarters := if magnitude.significand = Nat.pow 2 52 ∧ 0 < magnitude.shift then 1 else 2
  quarters * Nat.pow 2 magnitude.shift * stepsPerUnit

def marginAbove (magnitude : Magnitude) : Nat := 2 * Nat.pow 2 magnitude.shift * stepsPerUnit

/-- A number of quarter steps rounds to the magnitude. The ends of the interval do exactly when the
significand is even. -/
def roundsHere (magnitude : Magnitude) (quarterSteps : Nat) : Bool :=
  let low := magnitude.fourfold - magnitude.marginBelow
  let high := magnitude.fourfold + magnitude.marginAbove
  if magnitude.significand % 2 = 0 then low ≤ quarterSteps && quarterSteps ≤ high
  else low < quarterSteps && quarterSteps < high

/-- The better neighbour of the magnitude among the multiples of `spacing` steps, as a factor of
the spacing, if one of them rounds to the magnitude. -/
def neighbour? (magnitude : Magnitude) (spacing : Nat) : Option Nat :=
  let target := magnitude.fourfold
  let below := target / (4 * spacing)
  let above := below + 1
  match magnitude.roundsHere (below * (4 * spacing)),
      magnitude.roundsHere (above * (4 * spacing)) with
  | true, true =>
      if target - below * (4 * spacing) < above * (4 * spacing) - target then some below
      else some above
  | true, false => some below
  | false, true => some above
  | false, false => none

/-- The chosen number of steps: the search goes from the spacing `10 ^ power` to finer ones, the
finest of which meets the magnitude exactly. -/
def coarsest (magnitude : Magnitude) : Nat → Nat
  | 0 => magnitude.units * stepsPerUnit
  | power + 1 =>
      match magnitude.neighbour? (Nat.pow 10 (power + 1)) with
      | some factor => factor * Nat.pow 10 (power + 1)
      | none => magnitude.coarsest power

/-- The power of ten that the search starts at. With `b` the binary logarithm of the target, the
interval ends below `2 ^ (b + 2)`, and this spacing of `4 * 10 ^ (b / 3 + 1)` quarter steps is
larger, so coarser ones have only zero to offer. -/
def startingPower (magnitude : Magnitude) : Nat := magnitude.fourfold.log2 / 3 + 1

/-- The shortest text that reads back as the magnitude. -/
def text (magnitude : Magnitude) : Text :=
  Decimal.positional (magnitude.coarsest magnitude.startingPower) unitExponent

end QueryTemplate.Magnitude
