import QueryTemplate.Argument.Key
import QueryTemplate.Proofs.Binary64.Spelling

/-! # Names that are positional

A name is positional when it is a numeral, blanks around it apart. This can be told in two more
ways: reading a number at its start leaves nothing, and it spells a float with the characters of
numerals alone. The range of floats plays no part in it, and the decimal text of an integer is
always positional.
-/
namespace QueryTemplate.Key

theorem isPositional_name_iff (column : Text) :
    (name column).isPositional = true ↔ ∃ numeral, Decimal.IsNumeral column.trim numeral := by
  rw [isPositional, Option.isSome_iff_exists]
  simp only [Decimal.Numeral.ofText?_eq_some_iff]

/-- Reading a number at the start of a trimmed text leaves nothing exactly when it is a numeral. -/
theorem isPositional_name_iff_read? (column : Text) :
    (name column).isPositional = true ↔
      ∃ numeral, Decimal.Numeral.read? column.trim.trimStart = some (numeral, []) := by
  rw [isPositional_name_iff, Text.trimStart_trim]
  constructor
  · rintro ⟨numeral, isNumeral⟩
    exact ⟨numeral, isNumeral.read?_eq⟩
  · rintro ⟨numeral, read⟩
    obtain ⟨start, isNumeral, split⟩ := Decimal.Numeral.exists_isNumeral read
    rw [List.append_nil] at split
    exact ⟨numeral, split ▸ isNumeral⟩

/-- A test of the characters and a parser of floats together accept the numerals. -/
theorem isPositional_name_iff_isFloatText (column : Text) :
    (name column).isPositional = true ↔
      column.trim ≠ [] ∧ (∀ character ∈ column.trim, Decimal.IsNumeralCharacter character) ∧
        Binary64.IsFloatText column.trim := by
  rw [isPositional_name_iff]
  constructor
  · rintro ⟨numeral, isNumeral⟩
    exact ⟨isNumeral.nonempty, isNumeral.characters, .numeral isNumeral⟩
  · rintro ⟨-, characters, isFloatText⟩
    exact (Binary64.isFloatText_and_characters_iff _).mp ⟨isFloatText, characters⟩

section Blanks

variable {left right : Text} (leftBlank : ∀ character ∈ left, Text.isBlank character = true)
  (rightBlank : ∀ character ∈ right, Text.isBlank character = true)

include leftBlank rightBlank

theorem isPositional_of_isNumeral {text : Text} {numeral : Decimal.Numeral}
    (isNumeral : Decimal.IsNumeral text numeral) :
    (name (left ++ (text ++ right))).isPositional = true := by
  rw [isPositional_name_iff,
    Text.trim_append leftBlank rightBlank isNumeral.nonempty isNumeral.not_isBlank]
  exact ⟨numeral, isNumeral⟩

theorem isPositional_of_isNonFiniteName {text : Text} (isName : Binary64.IsNonFiniteName text) :
    (name (left ++ (text ++ right))).isPositional = false := by
  rw [Bool.eq_false_iff, ne_eq, isPositional_name_iff,
    Text.trim_append leftBlank rightBlank isName.nonempty isName.not_isBlank]
  rintro ⟨numeral, isNumeral⟩
  exact isName.not_isNumeral numeral isNumeral

end Blanks

theorem isPositional_ofInt (integer : Int) :
    (name (Decimal.ofInt integer)).isPositional = true := by
  obtain ⟨numeral, isNumeral⟩ := (Decimal.isInteger_ofInt integer).isSignedDigits.isNumeral
  rw [isPositional_name_iff, Text.trim_eq_self isNumeral.nonempty isNumeral.not_isBlank]
  exact ⟨numeral, isNumeral⟩

/-- A name is positional exactly when it is a numeral after trimming: when the number at its start
is all of it, and when it is not empty, has the characters of numerals alone and spells a float. So
no name of an infinity or of what is not a number is positional, while every numeral is, in range
or not, and with it the decimal text of an integer. -/
theorem positional_names_are_numerals :
    (∀ column : Text,
      ((name column).isPositional = true ↔ ∃ numeral, Decimal.IsNumeral column.trim numeral) ∧
      ((name column).isPositional = true ↔
        ∃ numeral, Decimal.Numeral.read? column.trim.trimStart = some (numeral, [])) ∧
      ((name column).isPositional = true ↔
        column.trim ≠ [] ∧ (∀ character ∈ column.trim, Decimal.IsNumeralCharacter character) ∧
          Binary64.IsFloatText column.trim)) ∧
    (∀ left text right : Text, (∀ character ∈ left, Text.isBlank character = true) →
      (∀ character ∈ right, Text.isBlank character = true) →
      (Binary64.IsNonFiniteName text → (name (left ++ (text ++ right))).isPositional = false) ∧
      ∀ numeral, Decimal.IsNumeral text numeral →
        (name (left ++ (text ++ right))).isPositional = true) ∧
    ∀ value : Int64, (name (Decimal.ofInt value.toInt)).isPositional = true := by
  refine ⟨?_, ?_, fun value => isPositional_ofInt value.toInt⟩
  · exact fun column => ⟨isPositional_name_iff column, isPositional_name_iff_read? column,
      isPositional_name_iff_isFloatText column⟩
  · exact fun left text right leftBlank rightBlank =>
      ⟨isPositional_of_isNonFiniteName leftBlank rightBlank,
        fun numeral => isPositional_of_isNumeral leftBlank rightBlank⟩

/-- Numerals that are read as an infinity or as zero are positional, the name of an infinity is
not. -/
theorem positional_names_are_numerals_out_of_range :
    let overflowing : Text := ['1', 'e', '9', '9', '9']
    let underflowing : Text := ['.', '1', 'E', '-', '9', '9', '9']
    let infinity : Text := ['-', 'I', 'n', 'F']
    Binary64.ofText? overflowing = some (.infinite false) ∧
      (name (['\u2003'] ++ (overflowing ++ ['\n']))).isPositional = true ∧
      Binary64.ofText? underflowing = some .zero ∧
      (name ([] ++ (underflowing ++ [' ']))).isPositional = true ∧
      Binary64.IsNonFiniteName infinity ∧
      (name ([' '] ++ (infinity ++ []))).isPositional = false ∧
      (name (Decimal.ofInt Int64.minValue.toInt)).isPositional = true := by
  intro overflowing underflowing infinity
  obtain ⟨-, around, integers⟩ := positional_names_are_numerals
  have large : Decimal.IsNumeral overflowing ⟨false, 1, 999⟩ :=
    Decimal.Numeral.ofText?_eq_some_iff.mp (by decide +kernel)
  have small : Decimal.IsNumeral underflowing ⟨false, 1, -1000⟩ :=
    Decimal.Numeral.ofText?_eq_some_iff.mp (by decide +kernel)
  have isName : Binary64.IsNonFiniteName infinity :=
    .named .minus (by decide : ['I', 'n', 'F'].map Char.toLower ∈ Binary64.nonFiniteNames)
  refine ⟨by decide +kernel, ?_, by decide +kernel, ?_, isName, ?_, integers Int64.minValue⟩
  · exact (around ['\u2003'] overflowing ['\n'] (List.all_eq_true.mp rfl)
      (List.all_eq_true.mp rfl)).2 _ large
  · exact (around [] underflowing [' '] (List.all_eq_true.mp rfl)
      (List.all_eq_true.mp rfl)).2 _ small
  · exact (around [' '] infinity [] (List.all_eq_true.mp rfl) (List.all_eq_true.mp rfl)).1 isName

end QueryTemplate.Key
