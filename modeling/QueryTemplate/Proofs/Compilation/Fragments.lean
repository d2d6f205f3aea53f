import QueryTemplate.Proofs.Compilation.Meaning
import QueryTemplate.Proofs.Rendering.Phrase

/-! # The fragments of a query

A query is the text of a sequence of fragments: its literal texts and skip markers, which are bare,
and the renderings of its arguments. Characters that its literals do not hold, and that are not used
for numbers, lists and markers, come from quoted text.
-/
namespace QueryTemplate

/-- What a part writes: a literal text or the marker of a skip as bare text, and otherwise what its
argument renders to. -/
def Part.fragments : Part → List Fragment
  | .text characters => [.bare characters]
  | .placeholder tag argument =>
      match argument.render tag with
      | ⟨fragments, .complete⟩ => fragments
      | ⟨_, .skipped⟩ => [.bare skipMarker]
      | ⟨_, .unsupported _⟩ => []

/-- A placeholder writes a phrase, or the marker. -/
theorem Part.fragments_placeholder (tag : Tag) (argument : Argument) :
    (Part.placeholder tag argument).fragments = [.bare skipMarker] ∨
      Phrase (Part.placeholder tag argument).fragments := by
  have phrase := argument.phrase_render tag
  rw [Part.fragments]
  cases rendering : argument.render tag with
  | mk fragments ending =>
      rw [rendering] at phrase
      cases ending with
      | complete => exact Or.inr phrase
      | skipped => exact Or.inl rfl
      | unsupported found => exact Or.inr .nil

def Region.fragments (compiler : Compiler) : Region → List Fragment
  | .single part => part.fragments
  | .block parts =>
      if parts.any (Part.isSkipped compiler) then [] else parts.flatMap Part.fragments

def Grouping.fragments (compiler : Compiler) {tokens : List Token} {arguments : List Argument}
    (grouping : Grouping tokens arguments) : List Fragment :=
  grouping.regions.flatMap (Region.fragments compiler)

/-- What a region writes is written by its parts. -/
theorem Region.exists_part_of_mem_fragments {compiler : Compiler} {region : Region}
    {fragment : Fragment} (member : fragment ∈ region.fragments compiler) :
    ∃ part : Part, part.item ∈ region.items ∧ fragment ∈ part.fragments := by
  cases region with
  | single part => exact ⟨part, List.mem_singleton.mpr rfl, member⟩
  | block parts =>
      rw [Region.fragments] at member
      split at member
      · exact absurd member List.not_mem_nil
      · obtain ⟨part, found, here⟩ := List.mem_flatMap.mp member
        exact ⟨part, by simp [Region.items, List.mem_map_of_mem found], here⟩

theorem Grouping.exists_part_of_mem_fragments {compiler : Compiler} {tokens : List Token}
    {arguments : List Argument} (grouping : Grouping tokens arguments) {fragment : Fragment}
    (member : fragment ∈ grouping.fragments compiler) :
    ∃ part : Part, part.item ∈ grouping.items ∧ fragment ∈ part.fragments := by
  obtain ⟨region, found, here⟩ := List.mem_flatMap.mp member
  obtain ⟨part, inside, written⟩ := Region.exists_part_of_mem_fragments here
  exact ⟨part, List.mem_flatMap_of_mem found inside, written⟩

namespace Compiler

variable (compiler : Compiler)

theorem textOf_part_fragments (part : Part) :
    compiler.textOf part.fragments = part.sql compiler := by
  cases part with
  | text characters => simp [Part.fragments, textOf, Fragment.text, Part.sql]
  | placeholder tag argument =>
      rw [Part.fragments, Part.sql, rendered]
      cases argument.render tag with
      | mk fragments ending =>
          cases ending with
          | complete => rfl
          | skipped => rfl
          | unsupported found => rfl

theorem textOf_region_fragments (region : Region) :
    compiler.textOf (region.fragments compiler) = region.sql compiler := by
  cases region with
  | single part => exact compiler.textOf_part_fragments part
  | block parts =>
      rw [Region.fragments, Region.sql]
      split
      · rfl
      · rw [textOf, List.flatMap_assoc]
        exact List.flatMap_congr fun part _ => compiler.textOf_part_fragments part

/-- The text of what a template writes is its query. -/
theorem textOf_grouping_fragments {tokens : List Token} {arguments : List Argument}
    (grouping : Grouping tokens arguments) :
    compiler.textOf (grouping.fragments compiler) = grouping.sql compiler := by
  rw [textOf, Grouping.fragments, List.flatMap_assoc]
  exact List.flatMap_congr fun region _ => compiler.textOf_region_fragments region

end Compiler

section

variable {allowed : Char → Prop} (bare : ∀ character, IsBareCharacter character → allowed character)
  (marker : ∀ character ∈ skipMarker, allowed character)

include bare marker

theorem Part.bareWithin {part : Part}
    (plain : ∀ characters, part.item.token = .text characters →
      ∀ character ∈ characters, allowed character) :
    ∀ fragment ∈ part.fragments, fragment.BareWithin allowed := by
  cases part with
  | text characters => exact List.forall_mem_singleton.mpr (plain characters rfl)
  | placeholder tag argument =>
      rcases Part.fragments_placeholder tag argument with marked | phrase
      · rw [marked]
        exact List.forall_mem_singleton.mpr marker
      · intro fragment member
        exact (phrase.bareWithin fragment member).imp bare

/-- Bare text holds the characters of literals, numbers, lists and markers, and no others. -/
theorem Grouping.bareWithin (compiler : Compiler) {tokens : List Token}
    {arguments : List Argument} (grouping : Grouping tokens arguments)
    (plain : ∀ characters, .text characters ∈ tokens →
      ∀ character ∈ characters, allowed character) :
    ∀ fragment ∈ grouping.fragments compiler, fragment.BareWithin allowed := by
  intro fragment member
  obtain ⟨part, found, here⟩ := grouping.exists_part_of_mem_fragments member
  refine Part.bareWithin bare marker ?_ fragment here
  intro characters same
  apply plain characters
  rw [← same, ← grouping.map_token_items]
  exact List.mem_map_of_mem found

end

end QueryTemplate
