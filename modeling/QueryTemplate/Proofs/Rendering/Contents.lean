import QueryTemplate.Proofs.Rendering.Ending
import QueryTemplate.Proofs.Rendering.Numbers

/-! # What is read off renderings

Bare text is written by the library itself; what comes from the texts of an argument is in the other
fragments. Whatever is read off fragments, and finds nothing in bare ones, is read off these texts:
those of a value itself, and the columns of its entries.
-/
namespace QueryTemplate.Argument

/-- The text of an argument that is one. -/
def ownTexts : Argument → List Text
  | .text value => [value]
  | _ => []

/-- The name of the column that a key assigns to, none for a positional key. -/
def columnTexts (key : Key) : List Text :=
  match key with
  | .index _ => []
  | .name column => if key.isPositional then [] else [column]

/-- The list has no member after this one. -/
def endsList (entry : Key × Argument) : Bool := !entry.2.valueEnding.isComplete

section

variable {α : Type} {read : Fragment → Option α}
  (bare : ∀ characters, read (.bare characters) = none)

include bare

theorem filterMap_bare (characters : Text) :
    (Rendering.bare characters).fragments.filterMap read = [] :=
  List.filterMap_cons_none (bare characters)

theorem filterMap_renderScalar (quoted : Text → Fragment) (argument : Argument) :
    (renderScalar quoted argument).fragments.filterMap read =
      argument.ownTexts.filterMap fun raw => read (quoted raw) := by
  cases argument with
  | null => exact filterMap_bare bare _
  | bool value => exact filterMap_bare bare _
  | int value => exact filterMap_bare bare _
  | float value => exact (isBare_renderFloat value).filterMap bare
  | text value => rfl
  | collection entries => rfl
  | skip => rfl

theorem filterMap_entryLabel (key : Key) :
    (entryLabel key).filterMap read =
      (columnTexts key).filterMap fun column => read (.identifier column) := by
  cases key with
  | index position => rfl
  | name column =>
      simp only [entryLabel, columnTexts]
      split
      · rfl
      · rw [List.filterMap_cons, List.filterMap_cons_none (bare _), List.filterMap_cons]
        rfl

theorem filterMap_renderName (entry : Key × Argument) :
    (renderName entry).fragments.filterMap read =
      entry.2.ownTexts.filterMap fun raw => read (.identifier raw) := by
  by_cases skip : entry.2 = .skip
  · rw [renderName, skip]
    rfl
  · rw [renderName, unlessSkip_of_ne_skip skip, filterMap_renderScalar bare]

theorem filterMap_renderEntry {entry : Key × Argument} (other : entry.2 ≠ .skip) :
    (renderEntry entry).fragments.filterMap read =
      (columnTexts entry.1).filterMap (fun column => read (.identifier column)) ++
        entry.2.ownTexts.filterMap fun raw => read (.literal raw) := by
  rw [renderEntry, unlessSkip_of_ne_skip other, Rendering.complete_andThen,
    List.filterMap_append, filterMap_entryLabel bare, filterMap_renderScalar bare]

/-- A list is read member by member, through the one that ends it. -/
theorem filterMap_renderList {rendering : Key × Argument → Rendering}
    (each : ∀ entry, (rendering entry).ending = entry.2.valueEnding)
    (entries : List (Key × Argument)) :
    (Rendering.commaSeparated (entries.map rendering)).fragments.filterMap read =
      (through endsList entries).flatMap
        fun entry => (rendering entry).fragments.filterMap read := by
  have stops :
      (fun rendering : Rendering => !rendering.ending.isComplete) ∘ rendering = endsList := by
    funext entry
    rw [Function.comp_apply, each, endsList]
  rw [Rendering.filterMap_fragments_through read (bare _), through_map, stops, List.flatMap_map]

end

end QueryTemplate.Argument
