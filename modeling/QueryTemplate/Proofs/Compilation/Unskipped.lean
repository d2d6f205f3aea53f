import QueryTemplate.Proofs.Argument.Json
import QueryTemplate.Proofs.Compilation.Reporting

/-! # Compiling without skips

A placeholder is skipped only if a request to skip occurs in its argument. Without one a compilation
that succeeds keeps every block: its query consists of all literal texts and the texts of all
placeholders, in order. Arguments from JSON are of this kind, whatever texts the JSON value holds.
-/
namespace QueryTemplate

namespace Argument

theorem occurs_skip_of_valueEnding {argument : Argument}
    (skipped : argument.valueEnding = .skipped) : Occurs .skip argument := by
  rw [eq_skip_of_valueEnding skipped]
  exact .self

theorem occurs_skip_of_listEnding {entries : List (Key × Argument)}
    (skipped : listEnding entries = .skipped) : Occurs .skip (.collection entries) := by
  have incomplete : listEnding entries ≠ .complete := by simp [skipped]
  obtain ⟨entry, member, same⟩ := exists_of_listEnding incomplete
  exact .member member (occurs_skip_of_valueEnding (same.trans skipped))

/-- Only a request to skip, in the argument or a value of it, skips a placeholder. -/
theorem occurs_skip_of_ending {tag : Tag} {argument : Argument}
    (skipped : argument.ending tag = .skipped) : Occurs .skip argument := by
  unfold ending at skipped
  split at skipped
  case h_1 entries => exact occurs_skip_of_listEnding skipped
  case h_2 entries => exact occurs_skip_of_listEnding skipped
  case h_3 => exact .self
  case h_4 => cases skipped
  case h_5 value => exact absurd skipped (endingOfFloat_ne_skipped _)
  case h_6 => exact occurs_skip_of_valueEnding skipped

end Argument

/-- The text that an item contributes when no block is dropped, and nothing for an argument that
gives none. -/
def Item.contents (compiler : Compiler) : Item → Text
  | .text characters => characters
  | .placeholder tag argument =>
      match compiler.rendered tag argument with
      | .ok (some written) => written
      | _ => []
  | .blockStart => []
  | .blockEnd => []

namespace Compiler

variable (compiler : Compiler)

theorem contents_part {part : Part} (kept : part.isSkipped compiler = false) :
    part.item.contents compiler = part.sql compiler := by
  cases part with
  | text characters => rfl
  | placeholder tag argument =>
      rw [Part.isSkipped] at kept
      rw [Part.item, Item.contents, Part.sql]
      cases outcome : compiler.rendered tag argument with
      | error found => rfl
      | ok text? =>
          cases text? with
          | none => simp [outcome] at kept
          | some text => rfl

theorem contents_parts {parts : List Part} (kept : parts.any (Part.isSkipped compiler) = false) :
    (parts.map Part.item).flatMap (Item.contents compiler) =
      parts.flatMap (Part.sql compiler) := by
  rw [List.flatMap_map]
  apply List.flatMap_congr
  intro part member
  apply compiler.contents_part
  simpa using List.any_eq_false.mp kept part member

/-- A region without a skipped placeholder is not dropped, and its text is that of its items. -/
theorem contents_region {region : Region}
    (kept : ∀ slot ∈ region.items.filterMap Item.slot?,
      compiler.rendered slot.1 slot.2 ≠ .ok none) :
    region.isDropped compiler = false ∧
      region.items.flatMap (Item.contents compiler) = region.sql compiler := by
  have noneSkipped : ∀ parts : List Part, (∀ part ∈ parts, part.item ∈ region.items) →
      parts.any (Part.isSkipped compiler) = false := by
    intro parts inside
    rw [← Bool.not_eq_true, any_isSkipped_iff]
    rintro ⟨slot, member, skipped⟩
    obtain ⟨item, found, same⟩ := List.mem_filterMap.mp member
    obtain ⟨part, among, rfl⟩ := List.mem_map.mp found
    exact kept slot (List.mem_filterMap.mpr ⟨part.item, inside part among, same⟩) skipped
  cases region with
  | single part =>
      have here := noneSkipped [part] (by simp [Region.items])
      exact ⟨rfl, by simpa [Region.items, Region.sql] using compiler.contents_parts here⟩
  | block parts =>
      have here := noneSkipped parts fun part member => by
        simp [Region.items, List.mem_map_of_mem member]
      have start : Item.blockStart.contents compiler = [] := rfl
      have finish : Item.blockEnd.contents compiler = [] := rfl
      refine ⟨here, ?_⟩
      rw [Region.items, List.flatMap_cons, List.flatMap_append, List.flatMap_singleton, start,
        finish, compiler.contents_parts here, Region.sql, here]
      simp

/-- The query of a template and its arguments keeps all that they give: every placeholder gives a
text, no block is dropped, and the query is all literal texts and texts of placeholders in order. No
marker of a skip is written. -/
structure KeepsAll (template : Template) (arguments : List Argument) (sql : Text) : Prop where
  rendered : ∀ slot ∈ template.slots arguments,
    ∃ text, compiler.rendered slot.1 slot.2 = .ok (some text)
  sql_eq : ∃ items, Item.pair? template.tokens arguments = some items ∧
    sql = items.flatMap (Item.contents compiler)
  kept : ∀ grouping : Grouping template.tokens arguments,
    ∀ region ∈ grouping.regions, region.isDropped compiler = false
  reported : (compiler.observe template arguments).events =
    [.compiled arguments.length template.blockCount 0
      (Text.shorten compiler.settings.loggedLength sql)]

theorem keepsAll_of_compileTemplate {template : Template} {arguments : List Argument} {sql : Text}
    (unskipped : ∀ argument ∈ arguments, ¬ Argument.Occurs .skip argument)
    (compiled : compiler.compileTemplate template arguments = .ok sql) :
    compiler.KeepsAll template arguments sql := by
  have noneSkipped : ∀ slot ∈ template.slots arguments,
      compiler.rendered slot.1 slot.2 ≠ .ok none := by
    intro slot member skipped
    rw [rendered_eq_ok_none_iff] at skipped
    exact unskipped slot.2 (List.of_mem_zip member).2 (Argument.occurs_skip_of_ending skipped)
  have regionKept : ∀ grouping : Grouping template.tokens arguments,
      ∀ region ∈ grouping.regions, region.isDropped compiler = false ∧
        region.items.flatMap (Item.contents compiler) = region.sql compiler := by
    intro grouping region member
    apply compiler.contents_region
    intro slot found
    apply noneSkipped
    rw [← grouping.filterMap_slot?_items]
    exact grouping.mem_slots_of_mem_region member found
  obtain ⟨grouping⟩ := Grouping.nonempty_of_template
    (compiler.length_of_compileTemplate_eq_ok compiled)
  have event := compiler.eventOf_evaluate compiled grouping
  have noneDropped : grouping.droppedBlocks compiler = 0 :=
    List.countP_eq_zero.mpr fun region member => by simp [(regionKept grouping region member).1]
  obtain ⟨supported, rfl⟩ :=
    (compiler.compileTemplate_eq_ok_iff_of_grouping grouping sql).mp compiled
  constructor
  · intro slot member
    cases outcome : compiler.rendered slot.1 slot.2 with
    | error found => exact absurd outcome (supported slot member found)
    | ok text? =>
        cases text? with
        | none => exact absurd outcome (noneSkipped slot member)
        | some text => exact ⟨text, rfl⟩
  · refine ⟨grouping.items, grouping.pair?_eq, ?_⟩
    rw [Grouping.sql, Grouping.items, List.flatMap_assoc]
    exact List.flatMap_congr fun region member => (regionKept grouping region member).2.symm
  · exact fun grouping region member => (regionKept grouping region member).1
  · rw [observe_eq, event, noneDropped, grouping.countP_isBlock, Template.blockCount]

/-- JSON cannot ask to skip: nothing that occurs in an argument from JSON is a request to skip or a
float that is not finite. A compilation with such arguments fails or keeps all that they give. -/
theorem keepsAll_of_listOfJson {json : Json} {arguments : List Argument}
    (accepted : Argument.listOfJson json = .ok arguments) :
    (∀ argument ∈ arguments, ∀ inner, Argument.Occurs inner argument →
      inner ≠ .skip ∧ ∀ value, inner = .float value → value.isFinite = true) ∧
    ∀ (compiler : Compiler) (template : Template) (sql : Text),
      compiler.compileTemplate template arguments = .ok sql →
        compiler.KeepsAll template arguments sql := by
  have fromJson : ∀ argument ∈ arguments, ∀ inner, Argument.Occurs inner argument →
      ∃ part, Argument.ofJson part = .ok inner := by
    intro argument member inner occurs
    obtain ⟨part, converted⟩ := Argument.exists_json_of_mem_listOfJson accepted member
    exact Argument.exists_json_of_occurs occurs converted
  constructor
  · intro argument member inner occurs
    obtain ⟨part, converted⟩ := fromJson argument member inner occurs
    refine ⟨?_, ?_⟩
    · rintro rfl
      exact Argument.ofJson_ne_skip part converted
    · rintro value rfl
      exact Argument.isFinite_of_ofJson converted
  · intro compiler template sql compiled
    apply compiler.keepsAll_of_compileTemplate _ compiled
    intro argument member occurs
    obtain ⟨part, converted⟩ := fromJson argument member .skip occurs
    exact Argument.ofJson_ne_skip part converted

/-- Texts that read as the marker of a skip or as braces stand in the query as they are, and the
blocks around them stay. -/
theorem keepsAll_of_marker_in_json :
    let json : Json :=
      .array [.array [.string skipMarker, .string ['}', '{'], .null],
        .number (.real true .zero), .object [(['k'], .string skipMarker)]]
    let arguments : List Argument :=
      [.ofList [.text skipMarker, .text ['}', '{'], .null], .float (.finite true .zero),
        .collection [(.name ['k'], .text skipMarker)]]
    let template : Template :=
      .parse ['{', '?', 'a', '}', '}', '{', 'b', '?', 'f', '}', '{', '?', '#', '}', '{']
    let sql : Text :=
      '\'' :: skipMarker ++ ['\'', ',', ' ', '\'', '}', '{', '\'', ',', ' '] ++ Argument.nullText ++
        ['b', '-', '0', '\x60'] ++ skipMarker ++ ['\x60']
    Argument.listOfJson json = .ok arguments ∧
      ({} : Compiler).compileTemplate template arguments = .ok sql ∧
      ({} : Compiler).KeepsAll template arguments sql := by
  intro json arguments template sql
  have accepted : Argument.listOfJson json = .ok arguments := rfl
  have compiled : ({} : Compiler).compileTemplate template arguments = .ok sql := by
    decide +kernel
  exact ⟨accepted, compiled, (keepsAll_of_listOfJson accepted).2 {} template sql compiled⟩

end Compiler
end QueryTemplate
