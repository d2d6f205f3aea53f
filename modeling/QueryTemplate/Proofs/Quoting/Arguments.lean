import QueryTemplate.Proofs.Quoting.Lexing
import QueryTemplate.Proofs.Rendering.Contents

/-! # The quoted tokens of an argument

Under each tag an argument writes a known sequence of quoted tokens: a string for a text, under the
tag of identifiers an identifier instead, in a list of assignments also an identifier for each
column, and nothing for a value of another kind. Within a rendering quoted text is never adjacent.
-/
namespace QueryTemplate

namespace Argument

/-- The token of a text, none for any other value. -/
def quotedText (token : Text → Quoted) : Argument → List Quoted
  | .text value => [token value]
  | _ => []

def quotedKey (escaper : Escaper) (key : Key) : List Quoted :=
  match key with
  | .index _ => []
  | .name column => if key.isPositional then [] else [.identifier (escaper column)]

/-- The quoted tokens that an argument writes under a tag. -/
def quoted (escaper : Escaper) (tag : Tag) (argument : Argument) : List Quoted :=
  match tag, argument with
  | .auto, argument => argument.quotedText .string
  | .identifier, .collection entries =>
      entries.flatMap fun entry => entry.2.quotedText fun raw => .identifier (escaper raw)
  | .identifier, argument => argument.quotedText fun raw => .identifier (escaper raw)
  | .list, .collection entries =>
      entries.flatMap fun entry => quotedKey escaper entry.1 ++ entry.2.quotedText .string
  | .list, _ => []
  | .integer, _ => []
  | .float, _ => []

section

variable (escaper : Escaper)

theorem quoted?_columnTexts (key : Key) :
    (columnTexts key).filterMap (fun column => Fragment.quoted? escaper (.identifier column)) =
      quotedKey escaper key := by
  cases key with
  | index position => rfl
  | name column =>
      simp only [columnTexts, quotedKey]
      split <;> rfl

theorem quoted?_ownTexts {fragment : Text → Fragment} {token : Text → Quoted}
    (reads : ∀ raw, (fragment raw).quoted? escaper = some (token raw)) (argument : Argument) :
    (argument.ownTexts.filterMap fun raw => (fragment raw).quoted? escaper) =
      argument.quotedText token := by
  simp only [reads]
  cases argument <;> rfl

theorem quoted?_renderScalar {fragment : Text → Fragment} {token : Text → Quoted}
    (reads : ∀ raw, (fragment raw).quoted? escaper = some (token raw)) (argument : Argument) :
    (renderScalar fragment argument).fragments.filterMap (Fragment.quoted? escaper) =
      argument.quotedText token := by
  rw [filterMap_renderScalar fun _ => rfl, quoted?_ownTexts escaper reads]

theorem quoted?_renderName (entry : Key × Argument) :
    (renderName entry).fragments.filterMap (Fragment.quoted? escaper) =
      entry.2.quotedText fun raw => .identifier (escaper raw) := by
  rw [filterMap_renderName fun _ => rfl]
  exact quoted?_ownTexts escaper (fun _ => rfl) entry.2

theorem quoted?_renderEntry {entry : Key × Argument}
    (complete : (renderEntry entry).ending = .complete) :
    (renderEntry entry).fragments.filterMap (Fragment.quoted? escaper) =
      quotedKey escaper entry.1 ++ entry.2.quotedText .string := by
  have other : entry.2 ≠ .skip := by
    intro skip
    rw [ending_renderEntry, skip] at complete
    cases complete
  rw [filterMap_renderEntry (fun _ => rfl) other, quoted?_columnTexts]
  exact congrArg (quotedKey escaper entry.1 ++ ·) (quoted?_ownTexts escaper (fun _ => rfl) entry.2)

theorem quoted?_commaSeparated {entries : List (Key × Argument)}
    {rendering : Key × Argument → Rendering} {tokens : Key × Argument → List Quoted}
    (complete : (Rendering.commaSeparated (entries.map rendering)).ending = .complete)
    (reads : ∀ entry, (rendering entry).ending = .complete →
      (rendering entry).fragments.filterMap (Fragment.quoted? escaper) = tokens entry) :
    (Rendering.commaSeparated (entries.map rendering)).fragments.filterMap
        (Fragment.quoted? escaper) =
      entries.flatMap tokens := by
  have each := (Rendering.ending_commaSeparated_eq_complete_iff _).mp complete
  rw [Rendering.filterMap_fragments_commaSeparated _ rfl each, List.flatMap_map]
  apply List.flatMap_congr
  intro entry member
  exact reads entry (each _ (List.mem_map_of_mem member))

/-- The quoted tokens of a complete rendering are those of its argument. -/
theorem quoted?_render {tag : Tag} {argument : Argument}
    (complete : (argument.render tag).ending = .complete) :
    (argument.render tag).fragments.filterMap (Fragment.quoted? escaper) =
      argument.quoted escaper tag := by
  have other : argument ≠ .skip := by
    rintro rfl
    cases complete
  cases tag with
  | auto =>
      rw [render_auto, unlessSkip_of_ne_skip other]
      exact quoted?_renderScalar escaper (fun _ => rfl) argument
  | integer => exact (argument.isBare_renderInteger.unlessSkip argument).filterMap fun _ => rfl
  | float => exact (argument.isBare_renderReal.unlessSkip argument).filterMap fun _ => rfl
  | identifier =>
      have reads (raw : Text) :
          (Fragment.identifier raw).quoted? escaper = some (.identifier (escaper raw)) := rfl
      have value := quoted?_renderScalar escaper reads argument
      cases argument with
      | collection entries =>
          exact quoted?_commaSeparated escaper complete fun entry _ =>
            quoted?_renderName escaper entry
      | _ => exact value
  | list =>
      cases argument with
      | collection entries =>
          exact quoted?_commaSeparated escaper complete fun entry => quoted?_renderEntry escaper
      | _ => rfl

end

end Argument

/-- In a phrase no two quoted fragments touch. -/
theorem Phrase.spaced {fragments : List Fragment} (phrase : Phrase fragments) :
    Fragment.Spaced false fragments := by
  induction phrase with
  | nil => trivial
  | bare each => trivial
  | literal raw => exact ⟨rfl, trivial⟩
  | identifier raw => exact ⟨rfl, trivial⟩
  | assignment column _ value => exact ⟨rfl, value⟩
  | comma _ _ first rest => exact (Fragment.spaced_append false _ _).mpr ⟨first, rest⟩

end QueryTemplate
