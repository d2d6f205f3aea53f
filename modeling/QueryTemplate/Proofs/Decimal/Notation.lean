import Mathlib.Data.List.Basic
import Mathlib.Data.List.Induction
import QueryTemplate.Binary64.Text

/-! # Decimal notation

The shapes of numbers in decimal: digits, digits without a leading zero, integers with the value
they stand for, and digits with a point among them. An integer has one text only. What the library
writes for a number is of these shapes.
-/
namespace QueryTemplate.Decimal

/-- Digits and nothing else, at least one. -/
structure IsDigits (text : Text) : Prop where
  nonempty : text ≠ []
  digits : ∀ character ∈ text, character.isDigit = true

/-- Digits of which the first is zero only if it is alone. -/
structure IsNatural (text : Text) : Prop extends IsDigits text where
  leading : text.head? = some '0' → text = ['0']

theorem exists_digitChar {character : Char} (digit : character.isDigit = true) :
    ∃ number < 10, Nat.digitChar number = character := by
  rw [Char.isDigit_iff_toNat] at digit
  have lower : 48 ≤ character.toNat := digit.1
  have upper : character.toNat ≤ 57 := digit.2
  refine ⟨character.toNat - 48, by omega, ?_⟩
  rw [← Char.toNat_inj, Nat.toNat_digitChar_of_lt_ten (by omega)]
  omega

theorem value_append_digitChar (digits : Text) {number : Nat} (small : number < 10) :
    value (digits ++ [Nat.digitChar number]) = 10 * value digits + number := by
  rw [value, Nat.ofDigitChars_append, Nat.ofDigitChars_cons_digitChar_of_lt_ten small,
    Nat.ofDigitChars_nil]
  rfl

theorem head?_ofNat_ne_zero {number : Nat} (positive : 0 < number) :
    (ofNat number).head? ≠ some '0' := by
  induction number using Nat.strongRecOn with
  | ind number induction =>
      rcases Nat.lt_or_ge number 10 with small | large
      · rw [ofNat, Nat.toDigits_of_lt_base small]
        simp [Nat.ne_of_gt positive]
      · rw [ofNat, Nat.toDigits_of_base_le (by decide) large,
          List.head?_append_of_ne_nil _ Nat.toDigits_ne_nil]
        exact induction (number / 10) (by omega) (by omega)

theorem isNatural_ofNat (number : Nat) : IsNatural (ofNat number) where
  nonempty := ofNat_ne_nil number
  digits := fun _ => isDigit_of_mem_ofNat
  leading := by
    intro zero
    rcases Nat.eq_zero_or_pos number with rfl | positive
    · rfl
    · exact absurd zero (head?_ofNat_ne_zero positive)

theorem IsNatural.front {front : Text} {last : Char} (natural : IsNatural (front ++ [last]))
    (nonempty : front ≠ []) : front.head? ≠ some '0' ∧ IsNatural front := by
  have notZero : front.head? ≠ some '0' := by
    intro zero
    have alone := natural.leading (by rw [List.head?_append_of_ne_nil _ nonempty, zero])
    have length := congrArg List.length alone
    simp [nonempty] at length
  refine ⟨notZero, ⟨nonempty, ?_⟩, fun zero => absurd zero notZero⟩
  exact fun character member => natural.digits character (List.mem_append_left _ member)

/-- Digits without a leading zero are the digits of the number they stand for. -/
theorem ofNat_value {digits : Text} (natural : IsNatural digits) :
    ofNat (value digits) = digits := by
  induction digits using List.reverseRecOn with
  | nil => exact absurd rfl natural.nonempty
  | append_singleton front last induction =>
      obtain ⟨number, small, rfl⟩ := exists_digitChar (natural.digits last (by simp))
      rw [value_append_digitChar front small]
      by_cases alone : front = []
      · subst alone
        rw [value, Nat.ofDigitChars_nil, Nat.mul_zero, Nat.zero_add, ofNat,
          Nat.toDigits_of_lt_base small, List.nil_append]
      · obtain ⟨notZero, frontNatural⟩ := natural.front alone
        have front_eq := induction frontNatural
        -- A front that stands for zero would be a leading zero.
        have positive : 0 < value front := by
          refine Nat.pos_of_ne_zero fun zero => notZero ?_
          rw [← front_eq, zero]
          rfl
        rw [ofNat, Nat.toDigits_of_base_le (by decide) (by omega), ← ofNat,
          show (10 * value front + number) / 10 = value front by omega, front_eq,
          show (10 * value front + number) % 10 = number by omega]

/-- The text of an integer: a natural number, and in front of it a minus sign if the integer is
negative. -/
inductive IsInteger : Text → Int → Prop
  | natural {digits : Text} (natural : IsNatural digits) : IsInteger digits (value digits)
  | negative {digits : Text} (natural : IsNatural digits) (nonzero : digits ≠ ['0']) :
      IsInteger ('-' :: digits) (-(value digits : Int))

theorem isInteger_ofInt (integer : Int) : IsInteger (ofInt integer) integer := by
  cases integer with
  | ofNat number =>
      have shape := IsInteger.natural (isNatural_ofNat number)
      rwa [value_ofNat] at shape
  | negSucc number =>
      have nonzero : ofNat (number + 1) ≠ ['0'] := fun zero =>
        head?_ofNat_ne_zero number.succ_pos (congrArg List.head? zero)
      have shape := IsInteger.negative (isNatural_ofNat (number + 1)) nonzero
      rw [value_ofNat] at shape
      rw [ofInt, if_pos (Int.negSucc_lt_zero number), Int.natAbs_negSucc]
      exact shape

/-- An integer has one text, and that is the one written for it. -/
theorem isInteger_iff (text : Text) (integer : Int) :
    IsInteger text integer ↔ text = ofInt integer := by
  constructor
  · intro shape
    cases shape with
    | natural natural =>
        rw [ofInt, if_neg (Int.not_lt.mpr (Int.natCast_nonneg _)), Int.natAbs_natCast,
          ofNat_value natural]
    | @negative digits natural nonzero =>
        have positive : 0 < value digits := by
          refine Nat.pos_of_ne_zero fun zero => nonzero ?_
          rw [← ofNat_value natural, zero]
          rfl
        rw [ofInt, if_pos (by omega), Int.natAbs_neg, Int.natAbs_natCast, ofNat_value natural]
  · rintro rfl
    exact isInteger_ofInt integer

/-- A natural number, and behind it a point and digits if there is a fraction. -/
inductive IsUnsigned : Text → Prop
  | whole {digits : Text} (natural : IsNatural digits) : IsUnsigned digits
  | fractional {digits fraction : Text} (natural : IsNatural digits)
      (places : IsDigits fraction) : IsUnsigned (digits ++ '.' :: fraction)

/-- A number with an optional minus sign and an optional fraction, without an exponent. -/
inductive IsDecimal : Text → Prop
  | unsigned {text : Text} (number : IsUnsigned text) : IsDecimal text
  | negative {text : Text} (number : IsUnsigned text) : IsDecimal ('-' :: text)

theorem lt_ten_of_mem_lowDigits {places number digit : Nat}
    (member : digit ∈ lowDigits places number) : digit < 10 := by
  induction places generalizing number with
  | zero => exact absurd member List.not_mem_nil
  | succ places induction =>
      rw [lowDigits, List.mem_cons] at member
      rcases member with rfl | later
      · exact Nat.mod_lt number (by decide)
      · exact induction later

theorem isDigit_of_mem_fractionDigits {places number : Nat} {character : Char}
    (member : character ∈ fractionDigits places number) : character.isDigit = true := by
  rw [fractionDigits, List.mem_reverse, List.mem_map] at member
  obtain ⟨digit, kept, rfl⟩ := member
  have found := (List.dropWhile_sublist _).subset kept
  rw [Nat.isDigit_digitChar]
  exact decide_eq_true (lt_ten_of_mem_lowDigits found)

theorem isUnsigned_positional (numerator places : Nat) :
    IsUnsigned (positional numerator places) := by
  have whole := isNatural_ofNat (numerator / Nat.pow 10 places)
  unfold positional
  split
  case h_1 => exact .whole whole
  case h_2 digit digits fraction =>
    rw [← fraction]
    refine .fractional whole ⟨?_, fun _ => isDigit_of_mem_fractionDigits⟩
    rw [fraction]
    exact List.cons_ne_nil digit digits

/-- A float is written in decimal when it is neither an infinity nor a non-number. -/
theorem isDecimal_text {value : Binary64} (finite : value.isFinite = true) :
    IsDecimal value.text := by
  cases value with
  | finite negative magnitude =>
      have number : IsUnsigned magnitude.text := by
        rw [Magnitude.text]
        exact isUnsigned_positional _ _
      rw [Binary64.text, Binary64.signed]
      split
      · exact .negative number
      · exact .unsigned number
  | infinite negative => simp [Binary64.isFinite] at finite
  | notNumber => simp [Binary64.isFinite] at finite

end QueryTemplate.Decimal
