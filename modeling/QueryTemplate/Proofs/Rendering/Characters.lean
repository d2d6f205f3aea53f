import QueryTemplate.Proofs.Decimal.Notation

/-! # Characters of bare text

Only text is quoted. Everything else that an argument contributes is bare: the digits, sign and
point of a number, the letters of null, and the commas and equals signs of lists. There is no quote,
brace or question mark among these.
-/
namespace QueryTemplate

/-- A character that stands in bare text. -/
def IsBareCharacter (character : Char) : Prop :=
  character.isDigit = true ∨ character ∈ ['-', '.', ',', ' ', '=', 'N', 'U', 'L']

instance : DecidablePred IsBareCharacter := fun character =>
  inferInstanceAs (Decidable (character.isDigit = true ∨ _))

/-- What is checked of each character holds of all. -/
theorem forall_of_all {property : Char → Prop} [DecidablePred property] {text : Text}
    (checked : (text.all fun character => decide (property character)) = true) :
    ∀ character ∈ text, property character := by
  intro character member
  exact of_decide_eq_true (List.all_eq_true.mp checked character member)

namespace Decimal

variable {text : Text}

theorem IsDigits.isBareCharacter (digits : IsDigits text) :
    ∀ character ∈ text, IsBareCharacter character :=
  fun character member => .inl (digits.digits character member)

theorem IsInteger.isBareCharacter {value : Int} (integer : IsInteger text value) :
    ∀ character ∈ text, IsBareCharacter character := by
  cases integer with
  | natural natural => exact natural.isBareCharacter
  | negative natural nonzero =>
      exact List.forall_mem_cons.mpr ⟨by decide, natural.isBareCharacter⟩

theorem IsUnsigned.isBareCharacter (number : IsUnsigned text) :
    ∀ character ∈ text, IsBareCharacter character := by
  cases number with
  | whole natural => exact natural.isBareCharacter
  | fractional natural places =>
      rw [List.forall_mem_append, List.forall_mem_cons]
      exact ⟨natural.isBareCharacter, by decide, places.isBareCharacter⟩

theorem IsDecimal.isBareCharacter (number : IsDecimal text) :
    ∀ character ∈ text, IsBareCharacter character := by
  cases number with
  | unsigned number => exact number.isBareCharacter
  | negative number =>
      exact List.forall_mem_cons.mpr ⟨by decide, number.isBareCharacter⟩

end Decimal

end QueryTemplate
