import QueryTemplate.Proofs.Binary64.Range
import QueryTemplate.Proofs.Rendering.Guards
import QueryTemplate.Proofs.Rendering.Sequence

/-! # How renderings end

Whether an argument is written, skipped or refused under a tag is decided without writing anything.
A single value is refused when it is a collection or a float that is not finite. A list goes on to
its first member that is not written, and is skipped or refused as that member is.
-/
namespace QueryTemplate.Argument

def endingOfFloat (value : Binary64) : Ending :=
  if value.isFinite then .complete else .unsupported (.nonFinite value)

/-- How a single value ends, as a value or as an identifier. -/
def valueEnding : Argument → Ending
  | .float value => endingOfFloat value
  | .collection _ => .unsupported (.kind .collection)
  | .skip => .skipped
  | _ => .complete

/-- A list ends as its first member that is not written, and is complete without one. -/
def listEnding (entries : List (Key × Argument)) : Ending :=
  ((entries.map fun entry => entry.2.valueEnding).find? fun ending => !ending.isComplete).getD
    .complete

/-- How an argument ends under a tag. -/
def ending (tag : Tag) (argument : Argument) : Ending :=
  match tag, argument with
  | .identifier, .collection entries => listEnding entries
  | .list, .collection entries => listEnding entries
  | .list, .skip => .skipped
  | .list, argument => .unsupported (.kind argument.kind)
  | .float, .text value => endingOfFloat (floatOfText value)
  | _, argument => argument.valueEnding

theorem ending_renderFloat (value : Binary64) :
    (renderFloat value).ending = endingOfFloat value := by
  unfold renderFloat endingOfFloat
  split <;> rfl

theorem ending_renderScalar (quoted : Text → Fragment) (argument : Argument) :
    (argument.unlessSkip (renderScalar quoted argument)).ending = argument.valueEnding := by
  cases argument with
  | float value => exact ending_renderFloat value
  | _ => rfl

theorem ending_renderInteger (argument : Argument) :
    (argument.unlessSkip argument.renderInteger).ending = argument.valueEnding := by
  cases argument with
  | float value => cases value <;> rfl
  | _ => rfl

/-- Under the tag for floats, the only text refused is one that reads as a number out of range. -/
theorem ending_renderReal (argument : Argument) :
    (argument.unlessSkip argument.renderReal).ending = argument.ending .float := by
  cases argument with
  | bool value =>
      have finite : (if value then Binary64.one else Binary64.zero).isFinite = true := by
        cases value <;> rfl
      rw [unlessSkip_of_ne_skip (by simp), renderReal, ending_renderFloat, endingOfFloat,
        if_pos finite]
      rfl
  | int value =>
      rw [unlessSkip_of_ne_skip (by simp), renderReal, ending_renderFloat, endingOfFloat,
        if_pos (Binary64.isFinite_ofInt value)]
      rfl
  | float value => exact ending_renderFloat value
  | text value => exact ending_renderFloat _
  | _ => rfl

theorem ending_renderName (entry : Key × Argument) :
    (renderName entry).ending = entry.2.valueEnding :=
  ending_renderScalar .identifier entry.2

theorem ending_renderEntry (entry : Key × Argument) :
    (renderEntry entry).ending = entry.2.valueEnding := by
  rw [← ending_renderScalar .literal]
  unfold renderEntry unlessSkip
  split <;> rfl

theorem ending_renderList {rendering : Key × Argument → Rendering}
    (each : ∀ entry, (rendering entry).ending = entry.2.valueEnding)
    (entries : List (Key × Argument)) :
    (Rendering.commaSeparated (entries.map rendering)).ending = listEnding entries := by
  rw [Rendering.ending_commaSeparated, List.map_map, listEnding]
  congr 2
  exact List.map_congr_left fun entry _ => each entry

theorem render_auto (argument : Argument) :
    argument.render .auto = argument.unlessSkip (renderScalar .literal argument) := rfl

theorem render_integer (argument : Argument) :
    argument.render .integer = argument.unlessSkip argument.renderInteger := rfl

theorem render_float (argument : Argument) :
    argument.render .float = argument.unlessSkip argument.renderReal := rfl

/-- What a rendering ends with is determined by the tag and the values. -/
theorem ending_render (tag : Tag) (argument : Argument) :
    (argument.render tag).ending = argument.ending tag := by
  cases tag with
  | auto => rw [render_auto, ending_renderScalar]; rfl
  | integer => rw [render_integer, ending_renderInteger]; rfl
  | float => rw [render_float, ending_renderReal]
  | identifier =>
      cases argument with
      | collection entries =>
          exact ending_renderList ending_renderName entries
      | _ => exact ending_renderScalar .identifier _
  | list =>
      cases argument with
      | collection entries => exact ending_renderList ending_renderEntry entries
      | _ => rfl

theorem endingOfFloat_ne_skipped (value : Binary64) : endingOfFloat value ≠ .skipped := by
  unfold endingOfFloat
  split <;> simp

theorem eq_skip_of_valueEnding {argument : Argument} (skipped : argument.valueEnding = .skipped) :
    argument = .skip := by
  cases argument with
  | skip => rfl
  | float value => exact absurd skipped (endingOfFloat_ne_skipped value)
  | _ => cases skipped

theorem nonFinite_of_endingOfFloat {value : Binary64} {found : Found}
    (refused : endingOfFloat value = .unsupported found) : found = .nonFinite value := by
  unfold endingOfFloat at refused
  split at refused
  case isTrue => exact absurd refused (by simp)
  case isFalse => exact (Ending.unsupported.inj refused).symm

theorem ne_skip_of_valueEnding {argument : Argument} {found : Found}
    (refused : argument.valueEnding = .unsupported found) : found ≠ .kind .skip := by
  cases argument with
  | float value => simp [nonFinite_of_endingOfFloat refused]
  | collection entries => simp [← Ending.unsupported.inj refused]
  | _ => exact absurd refused (by simp [valueEnding])

/-- A list that is not complete ends as one of its values. -/
theorem exists_of_listEnding {entries : List (Key × Argument)}
    (incomplete : listEnding entries ≠ .complete) :
    ∃ entry ∈ entries, entry.2.valueEnding = listEnding entries := by
  unfold listEnding at incomplete ⊢
  cases first : (entries.map fun entry => entry.2.valueEnding).find?
      fun ending => !ending.isComplete with
  | none => simp [first] at incomplete
  | some ending => exact List.mem_map.mp (List.mem_of_find?_eq_some first)

theorem ne_skip_of_listEnding {entries : List (Key × Argument)} {found : Found}
    (refused : listEnding entries = .unsupported found) : found ≠ .kind .skip := by
  have incomplete : listEnding entries ≠ .complete := by simp [refused]
  obtain ⟨entry, -, same⟩ := exists_of_listEnding incomplete
  exact ne_skip_of_valueEnding (same.trans refused)

/-- A skip is never what is refused. -/
theorem ne_skip_of_ending {tag : Tag} {argument : Argument} {found : Found}
    (refused : argument.ending tag = .unsupported found) : found ≠ .kind .skip := by
  unfold ending at refused
  split at refused
  case h_1 entries => exact ne_skip_of_listEnding refused
  case h_2 entries => exact ne_skip_of_listEnding refused
  case h_3 => simp at refused
  case h_4 not_skip =>
    rw [← Ending.unsupported.inj refused]
    cases argument with
    | skip => exact absurd rfl not_skip
    | _ => simp [kind]
  case h_5 value => simp [nonFinite_of_endingOfFloat refused]
  case h_6 => exact ne_skip_of_valueEnding refused

end QueryTemplate.Argument

namespace QueryTemplate.Found

/-- The description of a skip belongs to nothing else. -/
theorem description_ne_skip {found : Found} (other : found ≠ .kind .skip) :
    found.description ≠ ['s', 'k', 'i', 'p'] := by
  cases found with
  | kind kind => cases kind <;> simp_all [description, Kind.name]
  | nonFinite value => simp [description, Text.ofString]

end QueryTemplate.Found
