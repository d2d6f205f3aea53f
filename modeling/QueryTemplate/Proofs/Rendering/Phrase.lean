import QueryTemplate.Proofs.Rendering.Characters
import QueryTemplate.Proofs.Rendering.Guards
import QueryTemplate.Proofs.Rendering.Numbers
import QueryTemplate.Proofs.Rendering.Sequence

/-! # Phrases

The fragments of any rendering form a phrase: a value, a value assigned to a column, or phrases with
commas between them. What has to be known of all renderings is proved by induction on phrases.
-/
namespace QueryTemplate

/-- The sequences of fragments that renderings are made of. -/
inductive Phrase : List Fragment → Prop
  | nil : Phrase []
  | bare {characters : Text} (each : ∀ character ∈ characters, IsBareCharacter character) :
      Phrase [.bare characters]
  | literal (raw : Text) : Phrase [.literal raw]
  | identifier (raw : Text) : Phrase [.identifier raw]
  | assignment (column : Text) {value : List Fragment} (phrase : Phrase value) :
      Phrase (.identifier column :: .bare [' ', '=', ' '] :: value)
  | comma {first rest : List Fragment} (phrase : Phrase first) (others : Phrase rest) :
      Phrase (first ++ Rendering.comma :: rest)

namespace Argument

theorem phrase_nullText : Phrase (Rendering.bare nullText).fragments :=
  .bare (forall_of_all (by decide))

theorem phrase_ofBool (value : Bool) :
    Phrase (Rendering.bare [if value then '1' else '0']).fragments := by
  cases value with
  | false => exact .bare (forall_of_all (by decide))
  | true => exact .bare (forall_of_all (by decide))

theorem phrase_ofInt (value : Int) : Phrase (Rendering.bare (Decimal.ofInt value)).fragments :=
  .bare (Decimal.isInteger_ofInt value).isBareCharacter

/-- A bare rendering is a phrase if the texts it may be are made of the characters of bare text. -/
theorem phrase_of_isBare {allowed : Text → Prop} {rendering : Rendering}
    (isBare : rendering.IsBare allowed)
    (each : ∀ text, allowed text → ∀ character ∈ text, IsBareCharacter character) :
    Phrase rendering.fragments := by
  cases isBare with
  | written holds => exact .bare (each _ holds)
  | nothing incomplete => exact .nil

theorem NullOr.isBareCharacter {shape : Text → Prop} {argument : Argument}
    (each : ∀ text, shape text → ∀ character ∈ text, IsBareCharacter character) (text : Text)
    (nullOr : argument.NullOr shape text) : ∀ character ∈ text, IsBareCharacter character := by
  rcases nullOr with ⟨-, rfl⟩ | shaped
  · exact forall_of_all (by decide)
  · exact each text shaped

theorem phrase_renderFloat (value : Binary64) : Phrase (renderFloat value).fragments :=
  phrase_of_isBare (isBare_renderFloat value) fun _ => Decimal.IsDecimal.isBareCharacter

theorem phrase_renderInteger (argument : Argument) :
    Phrase (renderInteger argument).fragments := by
  apply phrase_of_isBare (isBare_renderInteger argument)
  apply NullOr.isBareCharacter
  rintro text ⟨value, integer⟩
  exact integer.isBareCharacter

theorem phrase_renderReal (argument : Argument) : Phrase (renderReal argument).fragments := by
  apply phrase_of_isBare (isBare_renderReal argument)
  exact NullOr.isBareCharacter fun _ => Decimal.IsDecimal.isBareCharacter

theorem phrase_renderScalar {quoted : Text → Fragment} (text : ∀ raw, Phrase [quoted raw])
    (argument : Argument) : Phrase (renderScalar quoted argument).fragments := by
  cases argument with
  | null => exact phrase_nullText
  | bool value => exact phrase_ofBool value
  | int value => exact phrase_ofInt value.toInt
  | float value => exact phrase_renderFloat value
  | text value => exact text value
  | collection entries => exact .nil
  | skip => exact .nil

theorem phrase_renderName (entry : Key × Argument) : Phrase (renderName entry).fragments :=
  unlessSkip_fragments Phrase entry.2 .nil (phrase_renderScalar .identifier entry.2)

theorem phrase_renderEntry (entry : Key × Argument) : Phrase (renderEntry entry).fragments := by
  obtain ⟨key, value⟩ := entry
  have phrase := phrase_renderScalar .literal value
  apply unlessSkip_fragments Phrase value .nil
  cases key with
  | index position => exact phrase
  | name column =>
      simp only [entryLabel]
      split
      · exact phrase
      · exact .assignment column phrase

theorem phrase_renderList {rendering : Key × Argument → Rendering}
    (each : ∀ entry, Phrase (rendering entry).fragments) (entries : List (Key × Argument)) :
    Phrase (Rendering.commaSeparated (entries.map rendering)).fragments := by
  have phrases : ∀ member ∈ entries.map rendering, Phrase member.fragments :=
    List.forall_mem_map.mpr fun entry _ => each entry
  refine Rendering.fragments_commaSeparated Phrase .nil phrases ?_
  intro member inside rest others
  exact .comma (phrases member inside) others

/-- Whatever is rendered is a phrase, also if it is not complete. -/
theorem phrase_render (tag : Tag) (argument : Argument) :
    Phrase (argument.render tag).fragments := by
  apply unlessSkip_fragments Phrase argument .nil
  split
  case h_1 => exact phrase_renderScalar .literal _
  case h_2 => exact phrase_renderInteger _
  case h_3 => exact phrase_renderReal _
  case h_4 entries => exact phrase_renderList phrase_renderName entries
  case h_5 => exact phrase_renderScalar .identifier _
  case h_6 entries => exact phrase_renderList phrase_renderEntry entries
  case h_7 => exact .nil

end Argument

/-- All characters of a fragment that is bare are allowed. -/
def Fragment.BareWithin (allowed : Char → Prop) : Fragment → Prop
  | .bare characters => ∀ character ∈ characters, allowed character
  | .literal _ => True
  | .identifier _ => True

theorem Fragment.BareWithin.imp {allowed others : Char → Prop} {fragment : Fragment}
    (within : fragment.BareWithin allowed)
    (included : ∀ character, allowed character → others character) :
    fragment.BareWithin others := by
  cases fragment with
  | bare characters => exact fun character member => included character (within character member)
  | literal raw => trivial
  | identifier raw => trivial

/-- The bare text of a phrase is made of the characters of numbers and lists. -/
theorem Phrase.bareWithin {fragments : List Fragment} (phrase : Phrase fragments) :
    ∀ fragment ∈ fragments, fragment.BareWithin IsBareCharacter := by
  induction phrase with
  | nil => exact List.forall_mem_nil _
  | bare each => exact List.forall_mem_singleton.mpr each
  | literal raw => exact List.forall_mem_singleton.mpr trivial
  | identifier raw => exact List.forall_mem_singleton.mpr trivial
  | assignment column _ value =>
      have sign : (Fragment.bare [' ', '=', ' ']).BareWithin IsBareCharacter :=
        forall_of_all (by decide)
      rw [List.forall_mem_cons, List.forall_mem_cons]
      exact ⟨trivial, sign, value⟩
  | comma _ _ first rest =>
      have comma : Rendering.comma.BareWithin IsBareCharacter :=
        forall_of_all (by decide)
      rw [List.forall_mem_append, List.forall_mem_cons]
      exact ⟨first, comma, rest⟩

end QueryTemplate
