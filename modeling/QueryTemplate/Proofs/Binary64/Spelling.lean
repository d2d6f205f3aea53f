import QueryTemplate.Binary64.Text
import QueryTemplate.Proofs.Decimal.Numerals

/-! # Spellings of floats

A float is spelled as a numeral, or by a name when it is an infinity or not a number. A name has a
letter that no numeral has, so what is made of the characters of numerals is spelled as one.
-/
namespace QueryTemplate

namespace Text

/-- A character whose code point is not that of a capital from A to Z. -/
theorem toLower_of_not_capital {character : Char}
    (notCapital : ¬ (65 ≤ character.toNat ∧ character.toNat ≤ 90)) :
    character.toLower = character := by
  apply dif_neg
  rintro ⟨lower, upper⟩
  exact notCapital ⟨UInt32.le_iff_toNat_le.mp lower, UInt32.le_iff_toNat_le.mp upper⟩

theorem toLower_of_isBlank {character : Char} (blank : isBlank character = true) :
    character.toLower = character := by
  apply toLower_of_not_capital
  simp [isBlank, blankRanges] at blank
  omega

theorem toLower_of_isDigit {character : Char} (digit : character.isDigit = true) :
    character.toLower = character := by
  apply toLower_of_not_capital
  have upper : character.toNat ≤ 57 := (Char.isDigit_iff_toNat.mp digit).2
  omega

end Text

namespace Decimal

theorem isBlank_of_isNumeralCharacter {character : Char}
    (isNumeral : IsNumeralCharacter character) : Text.isBlank character = false := by
  rcases isNumeral with digit | member
  · exact Text.isBlank_of_isDigit digit
  · simp only [List.mem_cons, List.not_mem_nil, or_false] at member
    rcases member with rfl | rfl | rfl | rfl | rfl <;> decide

theorem IsNumeral.nonempty {text : Text} {numeral : Numeral} (isNumeral : IsNumeral text numeral) :
    text ≠ [] := by
  obtain ⟨front, digit, -, rfl | rfl⟩ := isNumeral.endsInDigit <;> simp

theorem IsNumeral.not_isBlank {text : Text} {numeral : Numeral}
    (isNumeral : IsNumeral text numeral) : ∀ character ∈ text, Text.isBlank character = false :=
  fun character member => isBlank_of_isNumeralCharacter (isNumeral.characters character member)

end Decimal

namespace Binary64

open Decimal (IsNumeral IsNumeralCharacter IsSign)

/-- The names of an infinity and of what is not a number, in lower case. -/
def nonFiniteNames : List Text :=
  [['i', 'n', 'f'], ['i', 'n', 'f', 'i', 'n', 'i', 't', 'y'], ['n', 'a', 'n']]

/-- A name of a value that is not finite, in any letter case and behind any sign. -/
inductive IsNonFiniteName : Text → Prop
  | named {sign name : Text} {negative : Bool} (isSign : IsSign sign negative)
      (spelled : name.map Char.toLower ∈ nonFiniteNames) : IsNonFiniteName (sign ++ name)

/-- A numeral, or a name of a value that is not finite. -/
inductive IsFloatText (text : Text) : Prop
  | numeral {numeral : Decimal.Numeral} (isNumeral : IsNumeral text numeral)
  | name (isName : IsNonFiniteName text)

namespace IsNonFiniteName

variable {text : Text}

theorem nonempty (isName : IsNonFiniteName text) : text ≠ [] := by
  obtain ⟨-, spelled⟩ := isName
  simp only [ne_eq, List.append_eq_nil_iff, not_and]
  rintro - rfl
  exact absurd spelled (by decide)

theorem not_isBlank (isName : IsNonFiniteName text) :
    ∀ character ∈ text, Text.isBlank character = false := by
  obtain ⟨isSign, spelled⟩ := isName
  rw [List.forall_mem_append]
  refine ⟨fun character member =>
    Decimal.isBlank_of_isNumeralCharacter (isSign.characters character member), ?_⟩
  intro character member
  by_contra blank
  rw [Bool.not_eq_false] at blank
  have lower := List.mem_map_of_mem (f := Char.toLower) member
  rw [Text.toLower_of_isBlank blank] at lower
  have letters : ∀ name ∈ nonFiniteNames, name.any Text.isBlank = false := by decide
  exact List.any_eq_false.mp (letters _ spelled) character lower blank

/-- Every name has a letter n. -/
theorem exists_not_isNumeralCharacter (isName : IsNonFiniteName text) :
    ∃ character ∈ text, ¬ IsNumeralCharacter character := by
  obtain ⟨isSign, spelled⟩ := isName
  have letters : ∀ name ∈ nonFiniteNames, 'n' ∈ name := by decide
  obtain ⟨character, member, lower⟩ := List.mem_map.mp (letters _ spelled)
  refine ⟨character, List.mem_append_right _ member, ?_⟩
  rintro (digit | special)
  · rw [Text.toLower_of_isDigit digit] at lower
    subst lower
    cases digit
  · simp only [List.mem_cons, List.not_mem_nil, or_false] at special
    rcases special with rfl | rfl | rfl | rfl | rfl <;> exact absurd lower (by decide)

theorem not_isNumeral (isName : IsNonFiniteName text) (numeral : Decimal.Numeral) :
    ¬ IsNumeral text numeral := by
  intro isNumeral
  obtain ⟨character, member, foreign⟩ := isName.exists_not_isNumeralCharacter
  exact foreign (isNumeral.characters character member)

end IsNonFiniteName

/-- What spells a float with the characters of numerals is a numeral. -/
theorem isFloatText_and_characters_iff (text : Text) :
    (IsFloatText text ∧ ∀ character ∈ text, IsNumeralCharacter character) ↔
      ∃ numeral, IsNumeral text numeral := by
  constructor
  · rintro ⟨⟨isNumeral⟩ | ⟨isName⟩, characters⟩
    · exact ⟨_, isNumeral⟩
    · obtain ⟨character, member, foreign⟩ := isName.exists_not_isNumeralCharacter
      exact absurd (characters character member) foreign
  · rintro ⟨numeral, isNumeral⟩
    exact ⟨.numeral isNumeral, isNumeral.characters⟩

/-- A numeral is read as the float nearest to what it denotes. -/
theorem ofText?_of_isNumeral {text : Text} {numeral : Decimal.Numeral}
    (isNumeral : IsNumeral text numeral) : ofText? text = some (ofNumeral numeral) := by
  have notName (isName : IsNonFiniteName text) : False := isName.not_isNumeral numeral isNumeral
  rw [ofText?, if_neg, if_neg, if_neg, Decimal.Numeral.ofText?_eq_some_iff.mpr isNumeral,
    Option.map_some]
  · rintro rfl
    exact notName (.named .minus (by decide : infiniteText.map Char.toLower ∈ nonFiniteNames))
  · rintro rfl
    exact notName (.named .absent (by decide : infiniteText.map Char.toLower ∈ nonFiniteNames))
  · rintro rfl
    exact notName (.named .absent (by decide : notNumberText.map Char.toLower ∈ nonFiniteNames))

end Binary64
end QueryTemplate
