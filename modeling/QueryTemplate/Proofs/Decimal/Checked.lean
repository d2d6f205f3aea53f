import QueryTemplate.Proofs.Decimal.Reading
import Mathlib.Algebra.Ring.Int.Defs

/-! # Integers read with checks

An integer of sixty-four bits can be read digit by digit, with a check at each step that the number
so far fits. Digits only lead further from zero, so the first check that fails decides that the
whole does not fit either, and the sign tells on which side it is out of range. Giving the limit on
that side is to cut the integer to sixty-four bits.
-/
namespace QueryTemplate.Decimal

def Fits (value : Int) : Prop := -2 ^ 63 ≤ value ∧ value < 2 ^ 63

instance (value : Int) : Decidable (Fits value) := inferInstanceAs (Decidable (_ ∧ _))

/-- The value in sixty-four bits, if it fits. -/
def checked? (value : Int) : Option Int64 := if Fits value then some (.ofInt value) else none

/-- The number with one more digit, if it still fits. -/
def pushDigit? (negative : Bool) (number : Int64) (digit : Char) : Option Int64 := do
  let tenfold ← checked? (number.toInt * 10)
  let places : Int ← if digit.isDigit then some (digit.toNat - 48 : Nat) else none
  checked? (if negative then tenfold.toInt - places else tenfold.toInt + places)

/-- The integer that a text is as a whole, if it fits. -/
def parse? : Text → Option Int64
  | [] => none
  | ['+'] => none
  | ['-'] => none
  | '+' :: digits => digits.foldlM (pushDigit? false) 0
  | '-' :: digits => digits.foldlM (pushDigit? true) 0
  | digits => digits.foldlM (pushDigit? false) 0

/-- The first index, from the given one on, at which the text has no digit. -/
def digitsEnd (text : Text) (index : Nat) : Nat :=
  if _ : index < text.length then
    if text[index].isDigit then digitsEnd text (index + 1) else index
  else index
  termination_by text.length - index

def signLength (text : Text) : Nat :=
  if text.head? = some '+' ∨ text.head? = some '-' then 1 else 0

/-- The integer that a text starts with, zero without one. If it does not fit, it is the limit on
its side. -/
def scanInteger (text : Text) : Int64 :=
  let stop := digitsEnd text (signLength text)
  if stop = signLength text then 0
  else
    (parse? (text.take stop)).getD
      (if text.head? = some '-' then Int64.minValue else Int64.maxValue)

theorem toInt_ofIntClamp_eq (value : Int) :
    (Int64.ofIntClamp value).toInt = max (-2 ^ 63) (min value (2 ^ 63 - 1)) := by
  have least : Int64.minValue.toInt = -2 ^ 63 := rfl
  have greatest : Int64.maxValue.toInt = 2 ^ 63 - 1 := rfl
  rw [Int64.ofIntClamp]
  split
  case isTrue above =>
    split
    case isTrue below =>
      rw [Int64.toInt_ofIntLE]
      omega
    case isFalse below => omega
  case isFalse above => omega

theorem signedValue_append (negative : Bool) (digits : Text) {number : Nat} (small : number < 10) :
    signedValue negative (digits ++ [Nat.digitChar number]) =
      if negative then signedValue negative digits * 10 - number
      else signedValue negative digits * 10 + number := by
  rw [signedValue, signedValue, value_append_digitChar digits small]
  cases negative with
  | false => simp only [Bool.false_eq_true, ↓reduceIte]; omega
  | true => simp only [↓reduceIte]; omega

theorem bind_checked? {α : Type} (value : Int) (next : Int → Option α) :
    ((checked? value).bind fun number => next number.toInt) =
      if Fits value then next value else none := by
  unfold checked?
  split
  case isTrue fits => rw [Option.bind_some, Int64.toInt_ofInt_of_le fits.1 fits.2]
  case isFalse => rfl

theorem pushDigit?_digitChar (negative : Bool) (number : Int64) {digit : Nat} (small : digit < 10) :
    pushDigit? negative number (Nat.digitChar digit) =
      (checked? (number.toInt * 10)).bind fun tenfold =>
        checked? (if negative then tenfold.toInt - digit else tenfold.toInt + digit) := by
  have code := Nat.toNat_digitChar_of_lt_ten small
  have zero : 48 ≤ (Nat.digitChar digit).toNat := by omega
  have nine : (Nat.digitChar digit).toNat ≤ 57 := by omega
  have isDigit : (Nat.digitChar digit).isDigit = true := Char.isDigit_iff_toNat.mpr ⟨zero, nine⟩
  have places : (Nat.digitChar digit).toNat - 48 = digit := by omega
  simp only [pushDigit?, isDigit, ↓reduceIte, places]
  rfl

/-- Digits lead away from zero, so what fits has fitted before. -/
theorem Fits.of_outward {negative : Bool} {value : Int} {digit : Nat}
    (sign : if negative then value ≤ 0 else 0 ≤ value)
    (fits : Fits (if negative then value * 10 - digit else value * 10 + digit)) :
    Fits value ∧ Fits (value * 10) := by
  unfold Fits at fits ⊢
  cases negative with
  | false => simp only [Bool.false_eq_true, ↓reduceIte] at sign fits; omega
  | true => simp only [↓reduceIte] at sign fits; omega

/-- Checks at every digit are one check at the end. -/
theorem foldlM_pushDigit? (negative : Bool) {digits : Text}
    (all : ∀ character ∈ digits, character.isDigit = true) :
    digits.foldlM (pushDigit? negative) 0 = checked? (signedValue negative digits) := by
  -- from the end: the last digit is checked after all others
  induction digits using List.reverseRecOn with
  | nil => cases negative <;> rfl
  | append_singleton front last induction =>
      rw [List.forall_mem_append] at all
      obtain ⟨digit, small, rfl⟩ := exists_digitChar (all.2 last List.mem_cons_self)
      have sign : if negative then signedValue negative front ≤ 0
          else 0 ≤ signedValue negative front := by
        cases negative <;> simp [signedValue]
      rw [List.foldlM_append, induction all.1, signedValue_append negative front small]
      simp only [List.foldlM_cons, List.foldlM_nil, bind_pure, pushDigit?_digitChar _ _ small,
        Option.bind_eq_bind]
      rw [bind_checked? (signedValue negative front) fun value =>
          (checked? (value * 10)).bind fun tenfold =>
            checked? (if negative then tenfold.toInt - digit else tenfold.toInt + digit),
        bind_checked? (signedValue negative front * 10) fun tenfold =>
          checked? (if negative then tenfold - digit else tenfold + digit)]
      split
      case isTrue fits =>
        split
        case isTrue => rfl
        case isFalse large => exact (if_neg fun fits => large (Fits.of_outward sign fits).2).symm
      case isFalse large => exact (if_neg fun fits => large (Fits.of_outward sign fits).1).symm

theorem parse?_append {sign digits : Text} {negative : Bool} (isSign : IsSign sign negative)
    (isDigits : IsDigits digits) :
    parse? (sign ++ digits) = checked? (signedValue negative digits) := by
  rw [← foldlM_pushDigit? negative isDigits.digits]
  obtain ⟨first, rest, rfl⟩ := List.exists_cons_of_ne_nil isDigits.nonempty
  cases isSign with
  | absent =>
      obtain ⟨plus, minus⟩ := not_sign_of_isDigit (isDigits.digits first List.mem_cons_self)
      rw [List.nil_append, parse?]
      all_goals simp [plus, minus]
  | plus => rfl
  | minus => rfl

theorem getD_checked? (negative : Bool) (digits : Text) :
    (checked? (signedValue negative digits)).getD
        (if negative then Int64.minValue else Int64.maxValue) =
      Int64.ofIntClamp (signedValue negative digits) := by
  have least : Int64.minValue.toInt = -2 ^ 63 := rfl
  have greatest : Int64.maxValue.toInt = 2 ^ 63 - 1 := rfl
  rw [← Int64.toInt_inj, toInt_ofIntClamp_eq]
  unfold checked?
  split
  case isTrue fits =>
    obtain ⟨above, below⟩ := fits
    rw [Option.getD_some, Int64.toInt_ofInt_of_le above below]
    omega
  case isFalse large =>
    unfold Fits at large
    unfold signedValue at large ⊢
    cases negative with
    | false => simp only [Option.getD_none, Bool.false_eq_true, ↓reduceIte] at large ⊢; omega
    | true => simp only [Option.getD_none, ↓reduceIte] at large ⊢; omega

theorem digitsEnd_eq (text : Text) (index : Nat) :
    digitsEnd text index = index + (readDigits (text.drop index)).1.length := by
  fun_induction digitsEnd text index with
  | case1 index inside digit induction =>
      have more : (readDigits (text[index] :: text.drop (index + 1))).1 =
          text[index] :: (readDigits (text.drop (index + 1))).1 :=
        List.takeWhile_cons_of_pos digit
      rw [induction, List.drop_eq_getElem_cons inside, more, List.length_cons]
      omega
  | case2 index inside other =>
      rw [List.drop_eq_getElem_cons inside, readDigits, List.takeWhile_cons_of_neg other]
      rfl
  | case3 index outside =>
      rw [List.drop_eq_nil_of_le (Nat.le_of_not_lt outside)]
      rfl

theorem readSign_eq (text : Text) :
    readSign text = (decide (text.head? = some '-'), text.drop (signLength text)) ∧
      IsSign (text.take (signLength text)) (decide (text.head? = some '-')) := by
  unfold readSign
  split
  case h_1 => exact ⟨rfl, .minus⟩
  case h_2 => exact ⟨rfl, .plus⟩
  case h_3 minus plus =>
    cases text with
    | nil => exact ⟨rfl, .absent⟩
    | cons first rest =>
        have notMinus : first ≠ '-' := fun same => minus rest (by rw [same])
        have notPlus : first ≠ '+' := fun same => plus rest (by rw [same])
        simp [signLength, notMinus, notPlus, IsSign.absent]

/-- Reading with checks is reading and then cutting to sixty-four bits. -/
theorem scanInteger_eq (text : Text) :
    scanInteger text = Int64.ofIntClamp (leadingInteger text) := by
  obtain ⟨sign_eq, isSign⟩ := readSign_eq text
  have leading_eq : leadingInteger text =
      signedValue (decide (text.head? = some '-'))
        (readDigits (text.drop (signLength text))).1 := by
    rw [leadingInteger, sign_eq]
    rfl
  rw [scanInteger, leading_eq]
  rw [digitsEnd_eq]
  by_cases none : (readDigits (text.drop (signLength text))).1 = []
  · rw [none, List.length_nil, Nat.add_zero, if_pos rfl]
    cases decide (text.head? = some '-') <;> rfl
  · have isDigits : IsDigits (readDigits (text.drop (signLength text))).1 :=
      ⟨none, fun _ => isDigit_of_mem_readDigits⟩
    have digits_eq : (text.drop (signLength text)).take
        (readDigits (text.drop (signLength text))).1.length =
          (readDigits (text.drop (signLength text))).1 :=
      (List.prefix_iff_eq_take.mp (List.takeWhile_prefix _)).symm
    rw [if_neg (by simpa using none), List.take_add, digits_eq, parse?_append isSign isDigits,
      ← getD_checked?]
    simp

end QueryTemplate.Decimal
