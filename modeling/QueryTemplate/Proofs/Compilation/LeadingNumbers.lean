import QueryTemplate.Proofs.Binary64.Spelling
import QueryTemplate.Proofs.Compilation.NumericTags
import QueryTemplate.Proofs.Decimal.Checked

/-! # The number a text starts with

Under the numeric tags a text stands for the number it starts with once blanks are trimmed. As an
integer that is what its longest start of signed digits denotes, cut to sixty-four bits, so an
integer that was written is read back from it. As a float it is what its longest start that is a
numeral denotes. Without such a start either number is zero.
-/
namespace QueryTemplate

open Text (LongestStart)

namespace Argument

/-- The integer that a text stands for is found by reading with checks, and is a limit when they
fail. -/
theorem integerOfText_eq_scanInteger (raw : Text) :
    integerOfText raw = Decimal.scanInteger raw.trimStart :=
  (Decimal.scanInteger_eq raw.trimStart).symm

theorem integerOfText_of_not_leads {raw : Text} (plain : ¬ Decimal.LeadsInteger raw.trimStart) :
    integerOfText raw = 0 := by
  rw [integerOfText, Decimal.leadingInteger_of_not_leads plain]
  rfl

/-- A text stands for the integer that its longest start of signed digits denotes, as far as that
fits. -/
theorem exists_longestStart_integerOfText {raw : Text}
    (leads : Decimal.LeadsInteger raw.trimStart) :
    ∃ start value, LongestStart Decimal.IsSignedDigits raw.trimStart start value ∧
      (integerOfText raw).toInt = max (-2 ^ 63) (min value (2 ^ 63 - 1)) := by
  obtain ⟨start, longest⟩ := Decimal.longestStart_leadingInteger leads
  exact ⟨start, _, longest, Decimal.toInt_ofIntClamp_eq _⟩

theorem trimStart_ofInt_append (integer : Int) (rest : Text) :
    (Decimal.ofInt integer ++ rest).trimStart = Decimal.ofInt integer ++ rest := by
  obtain ⟨numeral, isNumeral⟩ := (Decimal.isInteger_ofInt integer).isSignedDigits.isNumeral
  apply Text.dropWhile_eq_self
  intro character first
  rw [List.head?_append_of_ne_nil _ isNumeral.nonempty] at first
  exact isNumeral.not_isBlank character (List.mem_of_mem_head? first)

/-- The decimal text of an integer stands for it, with blanks in front and behind it anything but
digits. -/
theorem integerOfText_append (value : Int64) {blanks rest : Text}
    (blank : ∀ character ∈ blanks, Text.isBlank character = true)
    (stop : ∀ character ∈ rest.head?, character.isDigit = false) :
    integerOfText (blanks ++ (Decimal.ofInt value.toInt ++ rest)) = value := by
  have isSigned := (Decimal.isInteger_ofInt value.toInt).isSignedDigits
  rw [integerOfText, Text.trimStart_append blank, trimStart_ofInt_append,
    Decimal.leadingInteger_append isSigned stop, Int64.ofIntClamp_toInt]

theorem integerOfText_ofInt (value : Int64) :
    integerOfText (Decimal.ofInt value.toInt) = value := by
  have alone : integerOfText ([] ++ (Decimal.ofInt value.toInt ++ [])) = value :=
    integerOfText_append value (by simp) (by simp)
  rwa [List.append_nil] at alone

/-- A text stands for zero as a float when no start of it is a numeral after blanks, and otherwise
for what the longest such start is read as. That start ends in a digit or in a point behind one, so
neither an exponent without digits nor a sign or a point by itself is part of it. -/
theorem floatOfText_of_longest_numeral (raw : Text) :
    ((∀ start numeral, start <+: raw.trimStart → ¬ Decimal.IsNumeral start numeral) →
      floatOfText raw = .zero) ∧
    ((∃ start numeral, start <+: raw.trimStart ∧ Decimal.IsNumeral start numeral) →
      ∃ start numeral, LongestStart Decimal.IsNumeral raw.trimStart start numeral ∧
        Binary64.ofText? start = some (floatOfText raw) ∧
        floatOfText raw = .ofNumeral numeral ∧
        Decimal.EndsInDigit start) := by
  constructor
  · intro plain
    rw [floatOfText, (Decimal.Numeral.read?_eq_none_iff _).mpr plain]
  · rintro ⟨other, otherNumeral, isStart, isNumeral⟩
    have found : Decimal.Numeral.read? raw.trimStart ≠ none := fun none =>
      (Decimal.Numeral.read?_eq_none_iff _).mp none other otherNumeral isStart isNumeral
    obtain ⟨⟨numeral, rest⟩, read⟩ := Option.ne_none_iff_exists'.mp found
    have float_eq : floatOfText raw = .ofNumeral numeral := by rw [floatOfText, read]
    obtain ⟨start, -, longest⟩ := Decimal.Numeral.longestStart_of_read? read
    refine ⟨start, numeral, longest, ?_, float_eq, longest.denotes.endsInDigit⟩
    rw [float_eq]
    exact Binary64.ofText?_of_isNumeral longest.denotes

/-- Digits before the point are enough, and a mark without digits behind it is left unread. -/
theorem floatOfText_of_longest_numeral_before_mark :
    let raw : Text := ['\u00A0', '-', '1', '.', 'E', '2', 'e', '+', 'é']
    (∃ start numeral, start <+: raw.trimStart ∧ Decimal.IsNumeral start numeral) ∧
      (∃ start numeral, LongestStart Decimal.IsNumeral raw.trimStart start numeral ∧
        Binary64.ofText? start = some (floatOfText raw) ∧
        floatOfText raw = .ofNumeral numeral ∧
        Decimal.EndsInDigit start) ∧
      floatOfText raw = .ofInt (-100) ∧
      (∀ start numeral, start <+: Text.trimStart ['-', '.'] → ¬ Decimal.IsNumeral start numeral) ∧
      floatOfText ['-', '.'] = .zero := by
  intro raw
  have digit (character : Char) (isDigit : character.isDigit = true) :
      Decimal.IsDigits [character] :=
    ⟨List.cons_ne_nil _ _, by simpa using isDigit⟩
  have noDigits : ∀ character ∈ ([] : Text), character.isDigit = true := by simp
  have isNumeral := Decimal.IsNumeral.numeral .minus (.pointed (digit '1' rfl) noDigits)
    (.marked (.inr rfl) (.signed .absent (digit '2' rfl)))
  have found : ∃ start numeral, start <+: raw.trimStart ∧ Decimal.IsNumeral start numeral :=
    ⟨_, _, ⟨['e', '+', 'é'], by decide +kernel⟩, isNumeral⟩
  have plain : ∀ start numeral, start <+: Text.trimStart ['-', '.'] →
      ¬ Decimal.IsNumeral start numeral :=
    (Decimal.Numeral.read?_eq_none_iff _).mp (by decide +kernel)
  exact ⟨found, (floatOfText_of_longest_numeral raw).2 found, by decide +kernel, plain,
    (floatOfText_of_longest_numeral ['-', '.']).1 plain⟩

end Argument

namespace Compiler

variable (compiler : Compiler)

theorem rendered_integer_text (raw : Text) :
    compiler.rendered .integer (.text raw) =
      .ok (some (Decimal.ofInt (Argument.integerOfText raw).toInt)) := by
  rw [rendered_eq_ok_some_iff]
  exact ⟨rfl, List.append_nil _⟩

/-- Under the tag for integers a text gives the integer that its longest start of signed digits
denotes, blanks apart and cut to sixty-four bits, and zero when it has no such start. So an integer
is read back from its decimal text with only blanks in front and no digit behind it, and what is
written for an argument that is not null is written again for its text. -/
theorem integer_tag_reads_leading_integer :
    (∀ raw : Text,
      compiler.rendered .integer (.text raw) =
        .ok (some (Decimal.ofInt (Argument.integerOfText raw).toInt)) ∧
      (¬ Decimal.LeadsInteger raw.trimStart → Argument.integerOfText raw = 0) ∧
      (Decimal.LeadsInteger raw.trimStart →
        ∃ start value, LongestStart Decimal.IsSignedDigits raw.trimStart start value ∧
          (Argument.integerOfText raw).toInt = max (-2 ^ 63) (min value (2 ^ 63 - 1)))) ∧
    (∀ (value : Int64) (blanks rest : Text),
      (∀ character ∈ blanks, Text.isBlank character = true) →
      (∀ character ∈ rest.head?, character.isDigit = false) →
      compiler.rendered .integer (.text (blanks ++ (Decimal.ofInt value.toInt ++ rest))) =
        .ok (some (Decimal.ofInt value.toInt))) ∧
    ∀ argument text, compiler.rendered .integer argument = .ok (some text) →
      text ≠ ['N', 'U', 'L', 'L'] →
      compiler.rendered .integer (.text text) = .ok (some text) := by
  refine ⟨?_, ?_, ?_⟩
  · exact fun raw => ⟨compiler.rendered_integer_text raw, Argument.integerOfText_of_not_leads,
      Argument.exists_longestStart_integerOfText⟩
  · intro value blanks rest blank stop
    rw [rendered_integer_text, Argument.integerOfText_append value blank stop]
  · intro argument text written notNull
    have isBare := argument.isBare_renderInteger.unlessSkip argument
    rw [← Argument.render_integer] at isBare
    rcases compiler.allowed_of_rendered isBare written with ⟨-, null⟩ | ⟨value, integer⟩
    · exact absurd null notNull
    · obtain rfl := (Decimal.isInteger_iff text value.toInt).mp integer
      rw [rendered_integer_text, Argument.integerOfText_ofInt]

/-- Leading zeros do not count against the limit, and below it the least integer is given. That
integer is read back from its text, and so is one from the text of a truth value. -/
theorem integer_tag_reads_leading_integer_below_limit :
    let compiler : Compiler := {}
    let raw : Text := ['\u3000', '-', '0', '0'] ++ Decimal.ofNat 9223372036854775809 ++ ['.', '5']
    let least : Text := Decimal.ofInt Int64.minValue.toInt
    Decimal.LeadsInteger raw.trimStart ∧
      (∃ start value, LongestStart Decimal.IsSignedDigits raw.trimStart start value ∧
        (Argument.integerOfText raw).toInt = max (-2 ^ 63) (min value (2 ^ 63 - 1))) ∧
      compiler.rendered .integer (.text raw) = .ok (some least) ∧
      ¬ Decimal.LeadsInteger ['+', '-', '1'] ∧ Argument.integerOfText ['+', '-', '1'] = 0 ∧
      compiler.rendered .integer (.text (['\t'] ++ (least ++ ['e', '9']))) = .ok (some least) ∧
      compiler.rendered .integer (.bool true) = .ok (some ['1']) ∧
      compiler.rendered .integer (.text ['1']) = .ok (some ['1']) := by
  intro compiler raw least
  obtain ⟨reads, readsBack, rewrites⟩ := compiler.integer_tag_reads_leading_integer
  have leads : Decimal.LeadsInteger raw.trimStart :=
    ⟨['-'], true, '0', ['0'] ++ Decimal.ofNat 9223372036854775809 ++ ['.', '5'], .minus, rfl,
      by decide +kernel⟩
  have plain : ¬ Decimal.LeadsInteger ['+', '-', '1'] := by
    rw [Decimal.leadsInteger_iff rfl]
    decide
  have written : compiler.rendered .integer (.bool true) = .ok (some ['1']) := by decide +kernel
  refine ⟨leads, (reads raw).2.2 leads, by decide +kernel, plain, (reads _).2.1 plain, ?_, written,
    rewrites _ _ written (by decide)⟩
  exact readsBack Int64.minValue ['\t'] ['e', '9'] (List.all_eq_true.mp rfl) (by simp)

end Compiler
end QueryTemplate
