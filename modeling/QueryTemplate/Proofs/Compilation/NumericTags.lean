import QueryTemplate.Proofs.Compilation.Recording
import QueryTemplate.Proofs.Rendering.Numbers

/-! # Numeric tags let no text through

Under the tags for integers and floats a placeholder gives null or the decimal text of a number, and
nothing is escaped for it. A text always gives an integer, and it gives a float unless the numeral
it starts with is out of range.
-/
namespace QueryTemplate

open Rendering (IsBare)

namespace Argument

theorem endingOfFloat_eq_complete_iff (value : Binary64) :
    endingOfFloat value = .complete ↔ value.isFinite = true := by
  unfold endingOfFloat
  split
  case isTrue finite => exact iff_of_true rfl finite
  case isFalse infinite => exact iff_of_false (by simp) infinite

/-- A text without a numeral at its start is read as zero. -/
theorem isFinite_floatOfText_iff (raw : Text) :
    (floatOfText raw).isFinite = true ↔
      ∀ numeral rest, Decimal.Numeral.read? raw.trimStart = some (numeral, rest) →
        numeral.InRange := by
  unfold floatOfText
  cases Decimal.Numeral.read? raw.trimStart with
  | none => exact iff_of_true rfl (by simp)
  | some found =>
      obtain ⟨numeral, rest⟩ := found
      rw [Binary64.isFinite_ofNumeral_iff]
      simp

end Argument

namespace Compiler

variable (compiler : Compiler)

/-- What is written bare for an argument is what is allowed of it. -/
theorem allowed_of_rendered {allowed : Text → Prop} {tag : Tag} {argument : Argument}
    (isBare : IsBare allowed (argument.render tag)) {text : Text}
    (written : compiler.rendered tag argument = .ok (some text)) : allowed text := by
  obtain ⟨complete, rfl⟩ := (compiler.rendered_eq_ok_some_iff tag argument text).mp written
  rw [← Argument.ending_render] at complete
  obtain ⟨characters, holds, fragments_eq⟩ := isBare.exists_of_complete complete
  have text_eq : compiler.textOf [.bare characters] = characters := List.append_nil characters
  rwa [fragments_eq, text_eq]

theorem exists_rendered_iff (tag : Tag) (argument : Argument) :
    (∃ text, compiler.rendered tag argument = .ok (some text)) ↔
      argument.ending tag = .complete := by
  simp [rendered_eq_ok_some_iff]

/-- Bare renderings are written without the escaper. -/
theorem escapes_of_isBare {allowed : Text → Prop} {rendering : Rendering}
    (isBare : IsBare allowed rendering) :
    Escapes (Fragment.writeAll compiler.recordingHost.escape compiler.quote rendering.fragments)
      (compiler.textOf rendering.fragments) [] := by
  have escapes := compiler.escapes_writeAll rendering.fragments
  rwa [isBare.filterMap fun _ => rfl] at escapes

/-- Under the tag for integers only null and integers of sixty-four bits are written, and under the
tag for floats only null and decimals without an exponent, without a use of the escaper. Every text
gives an integer. It gives a float exactly when the value it is read as is finite, which is when
the numeral it starts with, if any, is in range. -/
theorem numeric_tags_write_numbers :
    (∀ argument text, compiler.rendered .integer argument = .ok (some text) →
      argument = .null ∧ text = ['N', 'U', 'L', 'L'] ∨
        ∃ value : Int64, Decimal.IsInteger text value.toInt) ∧
    (∀ argument text, compiler.rendered .float argument = .ok (some text) →
      argument = .null ∧ text = ['N', 'U', 'L', 'L'] ∨ Decimal.IsDecimal text) ∧
    (∀ (argument : Argument) (tag : Tag), tag = .integer ∨ tag = .float →
      Escapes
        (Fragment.writeAll compiler.recordingHost.escape compiler.quote
          (argument.render tag).fragments)
        (compiler.textOf (argument.render tag).fragments) []) ∧
    ∀ raw,
      (∃ text, compiler.rendered .integer (.text raw) = .ok (some text)) ∧
      ((∃ text, compiler.rendered .float (.text raw) = .ok (some text)) ↔
        (Argument.floatOfText raw).isFinite = true) ∧
      ((Argument.floatOfText raw).isFinite = true ↔
        ∀ numeral rest, Decimal.Numeral.read? raw.trimStart = some (numeral, rest) →
          numeral.InRange) := by
  have integer (argument : Argument) := argument.isBare_renderInteger.unlessSkip argument
  have float (argument : Argument) := argument.isBare_renderReal.unlessSkip argument
  simp only [← Argument.render_integer] at integer
  simp only [← Argument.render_float] at float
  refine ⟨?_, ?_, ?_, ?_⟩
  · exact fun argument text => compiler.allowed_of_rendered (integer argument)
  · exact fun argument text => compiler.allowed_of_rendered (float argument)
  · rintro argument tag (rfl | rfl)
    · exact compiler.escapes_of_isBare (integer argument)
    · exact compiler.escapes_of_isBare (float argument)
  · intro raw
    refine ⟨(compiler.exists_rendered_iff _ _).mpr rfl, ?_,
      Argument.isFinite_floatOfText_iff raw⟩
    rw [compiler.exists_rendered_iff]
    exact Argument.endingOfFloat_eq_complete_iff _

/-- Integers are cut to sixty-four bits, exponents are written out, what stands behind a number is
left, and a number out of range is refused. -/
theorem numeric_tags_write_numbers_of_texts :
    let compiler : Compiler := {}
    let largest : Text := Decimal.ofNat 9223372036854775807
    let injected : Text := List.replicate 20 '9' ++ [' ', 'O', 'R', ' ', '1']
    compiler.rendered .integer (.text injected) = .ok (some largest) ∧
      (∃ value : Int64, Decimal.IsInteger largest value.toInt) ∧
      compiler.rendered .float (.text [' ', '-', '1', 'e', '2', '\'']) =
        .ok (some ['-', '1', '0', '0']) ∧
      Decimal.IsDecimal ['-', '1', '0', '0'] ∧
      ¬ ∃ text, compiler.rendered .float (.text ['1', 'e', '3', '0', '9']) = .ok (some text) := by
  intro compiler largest injected
  obtain ⟨integer, float, -, texts⟩ := compiler.numeric_tags_write_numbers
  have cut : compiler.rendered .integer (.text injected) = .ok (some largest) := by
    decide +kernel
  have writtenOut : compiler.rendered .float (.text [' ', '-', '1', 'e', '2', '\'']) =
      .ok (some ['-', '1', '0', '0']) := by
    decide +kernel
  refine ⟨cut, ?_, writtenOut, ?_, ?_⟩
  · exact (integer _ _ cut).resolve_left (by simp)
  · exact (float _ _ writtenOut).resolve_left (by simp)
  · rw [(texts _).2.1]
    decide +kernel

end Compiler
end QueryTemplate
