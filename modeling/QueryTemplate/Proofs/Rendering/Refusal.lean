import QueryTemplate.Proofs.Rendering.Ending

/-! # What is said of a refused argument

A collection where a single value is expected is called by its type, and so is anything but a
collection under the tag of lists. A float that is not finite is called by its number. A list is
refused for the first of its values that is, unless a skip comes before it.
-/
namespace QueryTemplate

/-- The description in the error of an ending, if it is one. -/
def Ending.description? : Ending → Option Text
  | .unsupported found => some found.description
  | _ => none

namespace Argument

/-- The name of the type of an argument. -/
def typeName : Argument → Text
  | .null => ['n', 'u', 'l', 'l']
  | .bool _ => ['b', 'o', 'o', 'l']
  | .int _ => ['i', 'n', 't']
  | .float _ => ['f', 'l', 'o', 'a', 't']
  | .text _ => ['t', 'e', 'x', 't']
  | .collection _ => ['c', 'o', 'l', 'l', 'e', 'c', 't', 'i', 'o', 'n']
  | .skip => ['s', 'k', 'i', 'p']

/-- What is said of a float that cannot be written. -/
def floatRefusal? : Binary64 → Option Text
  | .finite _ _ => none
  | .infinite false => some (.ofString "non-finite float inf")
  | .infinite true => some (.ofString "non-finite float -inf")
  | .notNumber => some (.ofString "non-finite float NaN")

/-- What is said of a single value that cannot be written, as a value or as an identifier. -/
def valueRefusal? : Argument → Option Text
  | .float value => floatRefusal? value
  | .collection _ => some ['c', 'o', 'l', 'l', 'e', 'c', 't', 'i', 'o', 'n']
  | _ => none

/-- What is said of the first value in a list that cannot be written, if no skip is before it. -/
def listRefusal? : List (Key × Argument) → Option Text
  | [] => none
  | (_, .skip) :: _ => none
  | (_, value) :: rest => value.valueRefusal?.or (listRefusal? rest)

/-- What is said of an argument that cannot be written under a tag. -/
def refusal? (tag : Tag) (argument : Argument) : Option Text :=
  match tag, argument with
  | _, .skip => none
  | .identifier, .collection entries => listRefusal? entries
  | .list, .collection entries => listRefusal? entries
  | .list, argument => some argument.typeName
  | .float, .text raw => floatRefusal? (floatOfText raw)
  | _, argument => argument.valueRefusal?

theorem description?_endingOfFloat (value : Binary64) :
    (endingOfFloat value).description? = floatRefusal? value := by
  cases value with
  | finite negative magnitude => rfl
  | infinite negative => cases negative <;> decide +kernel
  | notNumber => decide +kernel

theorem description?_valueEnding (argument : Argument) :
    argument.valueEnding.description? = argument.valueRefusal? := by
  cases argument with
  | float value => exact description?_endingOfFloat value
  | _ => rfl

theorem listEnding_cons (entry : Key × Argument) (rest : List (Key × Argument)) :
    listEnding (entry :: rest) =
      if entry.2.valueEnding.isComplete then listEnding rest else entry.2.valueEnding := by
  rw [listEnding, List.map_cons, List.find?_cons]
  cases entry.2.valueEnding.isComplete <;> rfl

theorem description?_listEnding (entries : List (Key × Argument)) :
    (listEnding entries).description? = listRefusal? entries := by
  induction entries with
  | nil => rfl
  | cons entry rest induction =>
      obtain ⟨key, value⟩ := entry
      rw [listEnding_cons]
      by_cases skip : value = .skip
      · rw [skip]
        rfl
      · rw [listRefusal?, ← induction, ← value.description?_valueEnding]
        · cases ending : value.valueEnding with
          | skipped => exact absurd (eq_skip_of_valueEnding ending) skip
          | _ => rfl
        · exact skip

theorem description?_ending (tag : Tag) (argument : Argument) :
    (argument.ending tag).description? = argument.refusal? tag := by
  cases argument with
  | skip => cases tag <;> rfl
  | collection entries =>
      cases tag with
      | identifier | list => exact description?_listEnding entries
      | _ => rfl
  | float value =>
      cases tag with
      | list => rfl
      | _ => exact description?_endingOfFloat value
  | text raw =>
      cases tag with
      | float => exact description?_endingOfFloat _
      | _ => rfl
  | _ => cases tag <;> rfl

/-- The rules for single values refuse a skip, and the one for bare values a text, and would say
what they are. -/
theorem description?_of_rules :
    (∀ rule ∈ [renderBare, renderInteger, renderReal],
      (rule .skip).ending.description? = some ['s', 'k', 'i', 'p']) ∧
    ∀ raw, (renderBare (.text raw)).ending.description? = some ['t', 'e', 'x', 't'] := by
  constructor
  · intro rule member
    simp only [List.mem_cons, List.not_mem_nil, or_false] at member
    rcases member with rfl | rfl | rfl <;> rfl
  · exact fun raw => rfl

/-- What is said of an argument is determined by the tag and the values, and something is said
exactly when the rendering is refused. -/
theorem description?_render (tag : Tag) (argument : Argument) :
    (argument.render tag).ending.description? = argument.refusal? tag := by
  rw [ending_render, description?_ending]

end Argument
end QueryTemplate
