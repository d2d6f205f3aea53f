import Mathlib.Tactic.Ring
import QueryTemplate.Binary64.Rounding

/-! # The range of rounding

A quotient rounds to a magnitude exactly when it lies below the middle between the largest magnitude
and the power of two that would come next; from the middle on it rounds to the infinity. No integer
of sixty-four bits comes near it.
-/
namespace QueryTemplate

theorem roundHalfEven_le (numerator denominator : Nat) :
    roundHalfEven numerator denominator ≤ numerator / denominator + 1 := by
  unfold roundHalfEven
  dsimp only
  split <;> omega

theorem le_roundHalfEven (numerator denominator : Nat) :
    numerator / denominator ≤ roundHalfEven numerator denominator := by
  unfold roundHalfEven
  dsimp only
  split <;> omega

/-- A quotient rounds past an odd integer from the middle to the next one on, since a tie goes to
the even one. -/
theorem roundHalfEven_le_iff_of_odd {numerator denominator odd : Nat} (positive : 0 < denominator)
    (isOdd : odd % 2 = 1) :
    roundHalfEven numerator denominator ≤ odd ↔
      2 * numerator < (2 * odd + 1) * denominator := by
  have division := Nat.div_add_mod numerator denominator
  have remainder := Nat.mod_lt numerator positive
  have middle_eq : (2 * odd + 1) * denominator = 2 * (denominator * odd) + denominator := by ring
  rcases Nat.lt_trichotomy (numerator / denominator) odd with below | same | above
  · have rounded := roundHalfEven_le numerator denominator
    have within := Nat.mul_le_mul_left denominator below
    rw [Nat.mul_succ] at within
    exact iff_of_true (by omega) (by omega)
  · rw [same] at division
    unfold roundHalfEven
    dsimp only
    rw [same]
    split <;> omega
  · have rounded := le_roundHalfEven numerator denominator
    have beyond := Nat.mul_le_mul_left denominator above
    rw [Nat.mul_succ] at beyond
    exact iff_of_false (by omega) (by omega)

namespace Magnitude

/-- The step that a quotient is rounded by leaves it at most fifty-three digits. -/
theorem lt_two_pow_shift (units : Nat) {denominator : Nat} (positive : 0 < denominator) :
    units < 2 ^ 53 * (denominator * 2 ^ ((units / denominator).log2 - 52)) := by
  have quotient_lt : units / denominator < 2 ^ 53 * 2 ^ ((units / denominator).log2 - 52) := by
    rw [← Nat.pow_add]
    exact Nat.lt_of_lt_of_le Nat.lt_log2_self (Nat.pow_le_pow_right (by decide) (by omega))
  calc
    units < 2 ^ 53 * 2 ^ ((units / denominator).log2 - 52) * denominator :=
      (Nat.div_lt_iff_lt_mul positive).mp quotient_lt
    _ = 2 ^ 53 * (denominator * 2 ^ ((units / denominator).log2 - 52)) := by ring

/-- A step above the least leaves a quotient no fewer. -/
theorem two_pow_shift_le (units : Nat) {denominator : Nat} (positive : 0 < denominator)
    (shifted : 0 < (units / denominator).log2 - 52) :
    2 ^ 52 * (denominator * 2 ^ ((units / denominator).log2 - 52)) ≤ units := by
  have nonzero : units / denominator ≠ 0 := by
    intro zero
    simp [zero] at shifted
  have le_quotient : 2 ^ 52 * 2 ^ ((units / denominator).log2 - 52) ≤ units / denominator := by
    rw [← Nat.pow_add]
    exact (Nat.pow_le_pow_right (by decide) (by omega)).trans (Nat.log2_self_le nonzero)
  calc
    2 ^ 52 * (denominator * 2 ^ ((units / denominator).log2 - 52)) =
        2 ^ 52 * 2 ^ ((units / denominator).log2 - 52) * denominator := by ring
    _ ≤ units := (Nat.le_div_iff_mul_le positive).mp le_quotient

/-- The shift of the largest magnitudes. -/
def lastShift : Nat := 2045

/-- A quotient of units has a finite rank below the middle of the last step. -/
theorem nearestRank_lt_iff (units : Nat) {denominator : Nat} (positive : 0 < denominator) :
    nearestRank units denominator < 2047 * 2 ^ 52 ↔
      2 * units < (2 ^ 54 - 1) * (denominator * 2 ^ lastShift) := by
  have below := lt_two_pow_shift units positive
  have above := two_pow_shift_le units positive
  unfold nearestRank
  dsimp only
  simp only [Nat.pow_eq]
  generalize (units / denominator).log2 - 52 = shift at below above ⊢
  have step_positive : 0 < denominator * 2 ^ shift := Nat.mul_pos positive (Nat.two_pow_pos shift)
  have at_last : roundHalfEven units (denominator * 2 ^ shift) ≤ 2 ^ 53 - 1 ↔
      2 * units < (2 * (2 ^ 53 - 1) + 1) * (denominator * 2 ^ shift) :=
    roundHalfEven_le_iff_of_odd step_positive (by decide)
  have steps : ∀ less more : Nat, less < more →
      2 * (denominator * 2 ^ less) ≤ denominator * 2 ^ more := by
    intro less more lt
    calc
      2 * (denominator * 2 ^ less) = denominator * 2 ^ (less + 1) := by ring
      _ ≤ denominator * 2 ^ more :=
        Nat.mul_le_mul_left denominator (Nat.pow_le_pow_right (by decide) lt)
  have lastShift_eq : lastShift = 2045 := rfl
  -- Every rank below the last shift is finite and none above it; at it the largest one is odd.
  rcases Nat.lt_trichotomy shift lastShift with small | last | large
  · have smaller := steps shift lastShift small
    have quotient_lt : units / (denominator * 2 ^ shift) < 2 ^ 53 :=
      (Nat.div_lt_iff_lt_mul step_positive).mpr below
    have up := roundHalfEven_le units (denominator * 2 ^ shift)
    exact iff_of_true (by omega) (by omega)
  · rw [last] at at_last ⊢
    generalize denominator * 2 ^ lastShift = step at at_last ⊢
    omega
  · have larger := steps lastShift shift large
    have reached := above (by omega)
    have quotient_ge : 2 ^ 52 ≤ units / (denominator * 2 ^ shift) :=
      (Nat.le_div_iff_mul_le step_positive).mpr reached
    have down := le_roundHalfEven units (denominator * 2 ^ shift)
    exact iff_of_false (by omega) (by omega)

theorem scaled_lt_iff {numerator denominator odd power scale : Nat} (positive : 0 < scale) :
    2 * (numerator * scale) < odd * (denominator * (power * (2 * scale))) ↔
      numerator < odd * power * denominator := by
  have left_eq : 2 * (numerator * scale) = numerator * (2 * scale) := by ring
  have right_eq : odd * (denominator * (power * (2 * scale))) =
      odd * power * denominator * (2 * scale) := by ring
  rw [left_eq, right_eq]
  exact Nat.mul_lt_mul_right (Nat.mul_pos (by decide) positive)

/-- The middle between the largest magnitude and the power of two that would come next. -/
def limit : Nat := (2 ^ 54 - 1) * 2 ^ (lastShift - unitExponent - 1)

example : limit = 2 ^ 1024 - 2 ^ 970 := by decide +kernel

/-- A quotient has a nearest magnitude exactly when it is below the limit. -/
theorem isSome_nearest?_iff (numerator : Nat) {denominator : Nat} (positive : 0 < denominator) :
    (nearest? numerator denominator).isSome = true ↔ numerator < limit * denominator := by
  have isSome : (nearest? numerator denominator).isSome = true ↔
      nearestRank (numerator * Nat.pow 2 unitExponent) denominator < 2047 * Nat.pow 2 52 := by
    unfold nearest?
    dsimp only
    split
    case isTrue finite => exact iff_of_true rfl finite
    case isFalse infinite => exact iff_of_false Bool.false_ne_true infinite
  have exponents : lastShift = lastShift - unitExponent - 1 + (unitExponent + 1) := rfl
  have lastStep_eq :
      2 ^ lastShift = 2 ^ (lastShift - unitExponent - 1) * (2 * 2 ^ unitExponent) := by
    rw [← pow_succ', ← pow_add, ← exponents]
  rw [isSome, Nat.pow_eq, Nat.pow_eq, nearestRank_lt_iff _ positive, limit, lastStep_eq,
    scaled_lt_iff (Nat.two_pow_pos unitExponent)]

end Magnitude

/-- What a numeral denotes is below the limit, its sign apart. -/
def Decimal.Numeral.InRange (numeral : Decimal.Numeral) : Prop :=
  numeral.coefficient * 10 ^ numeral.exponent.toNat <
    Magnitude.limit * 10 ^ (-numeral.exponent).toNat

namespace Binary64

theorem isFinite_ofRatio_iff (negative : Bool) (numerator : Nat) {denominator : Nat}
    (positive : 0 < denominator) :
    (ofRatio negative numerator denominator).isFinite = true ↔
      numerator < Magnitude.limit * denominator := by
  rw [← Magnitude.isSome_nearest?_iff numerator positive, ofRatio]
  cases Magnitude.nearest? numerator denominator <;> simp [ofMagnitude?, isFinite]

/-- An integer of sixty-four bits rounds to a finite number. -/
theorem isFinite_ofInt (value : Int64) : (ofInt value.toInt).isFinite = true := by
  have magnitude_le : value.toInt.natAbs ≤ 2 ^ 63 := by
    have lower := value.le_toInt
    have upper := value.toInt_lt
    omega
  have limit_large : 2 ^ 63 < Magnitude.limit * 1 := by decide +kernel
  exact (isFinite_ofRatio_iff _ _ Nat.one_pos).mpr (Nat.lt_of_le_of_lt magnitude_le limit_large)

/-- A number in decimal form is finite exactly when its magnitude is below the limit. -/
theorem isFinite_ofScientific_iff (negative : Bool) (coefficient : Nat) (exponent : Int) :
    (ofScientific negative coefficient exponent).isFinite = true ↔
      coefficient * 10 ^ exponent.toNat < Magnitude.limit * 10 ^ (-exponent).toNat := by
  have limit_positive : 0 < Magnitude.limit := by decide +kernel
  unfold ofScientific
  split
  case isTrue small =>
    refine iff_of_true rfl ?_
    rcases small with rfl | tiny
    · rw [Nat.zero_mul]
      exact Nat.mul_pos limit_positive (Nat.pow_pos (by decide))
    · have whole : exponent.toNat = 0 := by omega
      have digits : coefficient.log2 + 1 ≤ (-exponent).toNat := by omega
      calc
        coefficient * 10 ^ exponent.toNat = coefficient := by rw [whole, Nat.pow_zero, Nat.mul_one]
        _ < 2 ^ (coefficient.log2 + 1) := Nat.lt_log2_self
        _ ≤ 10 ^ (coefficient.log2 + 1) := Nat.pow_le_pow_left (by decide) _
        _ ≤ 10 ^ (-exponent).toNat := Nat.pow_le_pow_right (by decide) digits
        _ ≤ Magnitude.limit * 10 ^ (-exponent).toNat := Nat.le_mul_of_pos_left _ limit_positive
  case isFalse notSmall =>
    split
    case isTrue large =>
      have nonzero : 0 < coefficient := by omega
      have whole : (-exponent).toNat = 0 := by omega
      have beyond : Magnitude.limit ≤ 10 ^ 309 := by decide +kernel
      refine iff_of_false Bool.false_ne_true (Nat.not_lt.mpr ?_)
      calc
        Magnitude.limit * 10 ^ (-exponent).toNat = Magnitude.limit := by
          rw [whole, Nat.pow_zero, Nat.mul_one]
        _ ≤ 10 ^ 309 := beyond
        _ ≤ 10 ^ exponent.toNat := pow_le_pow_right₀ (by decide) (by omega)
        _ ≤ coefficient * 10 ^ exponent.toNat := Nat.le_mul_of_pos_left _ nonzero
    case isFalse => exact isFinite_ofRatio_iff _ _ (Nat.pow_pos (by decide))

theorem isFinite_ofNumeral_iff (numeral : Decimal.Numeral) :
    (ofNumeral numeral).isFinite = true ↔ numeral.InRange :=
  isFinite_ofScientific_iff _ _ _

end Binary64
end QueryTemplate
