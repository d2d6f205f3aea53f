import QueryTemplate.Proofs.Decimal.Notation
import QueryTemplate.Rendering.Rules

/-! # Renderings of numbers

Under a numeric tag an argument is written bare or not at all. What is written is null, or the
decimal text of a number that the argument is or is read as, and never a text that came with it.
-/
namespace QueryTemplate

namespace Rendering

/-- One bare text that is allowed, or nothing and an ending that tells why. -/
inductive IsBare (allowed : Text → Prop) : Rendering → Prop
  | written {characters : Text} (holds : allowed characters) : IsBare allowed (.bare characters)
  | nothing {ending : Ending} (incomplete : ending ≠ .complete) : IsBare allowed ⟨[], ending⟩

namespace IsBare

variable {allowed others : Text → Prop} {rendering : Rendering}

theorem imp (isBare : IsBare allowed rendering)
    (included : ∀ characters, allowed characters → others characters) :
    IsBare others rendering := by
  cases isBare with
  | written holds => exact .written (included _ holds)
  | nothing incomplete => exact .nothing incomplete

/-- A skip is nothing too, and tells why. -/
theorem unlessSkip (isBare : IsBare allowed rendering) (argument : Argument) :
    IsBare allowed (argument.unlessSkip rendering) := by
  unfold Argument.unlessSkip
  split
  · exact .nothing (by simp)
  · exact isBare

/-- What is read off quoted fragments only is not found. -/
theorem filterMap {α : Type} {read : Fragment → Option α}
    (unread : ∀ characters, read (.bare characters) = none) (isBare : IsBare allowed rendering) :
    rendering.fragments.filterMap read = [] := by
  cases isBare with
  | written holds => exact List.filterMap_cons_none (unread _)
  | nothing incomplete => rfl

theorem exists_of_complete (isBare : IsBare allowed rendering)
    (complete : rendering.ending = .complete) :
    ∃ characters, allowed characters ∧ rendering.fragments = [.bare characters] := by
  cases isBare with
  | @written characters holds => exact ⟨characters, holds, rfl⟩
  | nothing incomplete => exact absurd complete incomplete

end IsBare
end Rendering

namespace Argument

open Rendering (IsBare)

/-- The text is that of null, which is written for nothing else, or has the given shape. -/
def NullOr (shape : Text → Prop) (argument : Argument) (text : Text) : Prop :=
  argument = .null ∧ text = nullText ∨ shape text

theorem isBare_renderFloat (value : Binary64) :
    IsBare Decimal.IsDecimal (renderFloat value) := by
  unfold renderFloat
  split
  case isTrue finite => exact .written (Decimal.isDecimal_text finite)
  case isFalse => exact .nothing (by simp)

/-- Under the tag for integers null is written as such and all else as an integer of sixty-four
bits. -/
theorem isBare_renderInteger (argument : Argument) :
    IsBare (argument.NullOr fun text => ∃ value : Int64, Decimal.IsInteger text value.toInt)
      argument.renderInteger := by
  have integer (value : Int64) : IsBare
      (argument.NullOr fun text => ∃ value : Int64, Decimal.IsInteger text value.toInt)
      (.bare (Decimal.ofInt value.toInt)) :=
    .written (.inr ⟨value, Decimal.isInteger_ofInt value.toInt⟩)
  cases argument with
  | null => exact .written (.inl ⟨rfl, rfl⟩)
  | bool value =>
      cases value with
      | false => exact integer 0
      | true => exact integer 1
  | int value => exact integer value
  | float value =>
      cases value with
      | finite negative magnitude => exact integer _
      | infinite negative => exact .nothing (by simp)
      | notNumber => exact .nothing (by simp)
  | text value => exact integer (integerOfText value)
  | collection entries => exact .nothing (by simp)
  | skip => exact .nothing (by simp)

/-- Under the tag for floats null is written as such and all else in decimal. -/
theorem isBare_renderReal (argument : Argument) :
    IsBare (argument.NullOr Decimal.IsDecimal) argument.renderReal := by
  have float (value : Binary64) :
      IsBare (argument.NullOr Decimal.IsDecimal) (renderFloat value) :=
    (isBare_renderFloat value).imp fun _ => .inr
  cases argument with
  | null => exact .written (.inl ⟨rfl, rfl⟩)
  | bool value => exact float _
  | int value => exact float _
  | float value => exact float value
  | text value => exact float _
  | collection entries => exact .nothing (by simp)
  | skip => exact .nothing (by simp)

end Argument
end QueryTemplate
