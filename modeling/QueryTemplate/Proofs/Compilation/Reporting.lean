import QueryTemplate.Proofs.Compilation.Meaning
import QueryTemplate.Proofs.Compilation.Recording
import QueryTemplate.Proofs.Template.Positions

/-! # The event of a compilation

A compilation is reported once. The numbers of a success are those of the template and of its
blocks: a block counts as dropped when one or more of its placeholders are skipped, and a skip
outside blocks does not count. The limit on reported text changes the event and not the query.
-/
namespace QueryTemplate

def Region.isBlock : Region → Bool
  | .single _ => false
  | .block _ => true

theorem blockStart_notMem_parts (parts : List Part) :
    .blockStart ∉ (parts.map Part.item).map Item.token := by
  rw [List.map_map, List.mem_map]
  rintro ⟨part, -, same⟩
  cases part <;> cases same

theorem count_blockStart_regions (regions : List Region) :
    ((regions.flatMap Region.items).map Item.token).count .blockStart =
      regions.countP Region.isBlock := by
  induction regions with
  | nil => rfl
  | cons region rest induction =>
      rw [List.flatMap_cons, List.map_append, List.count_append, induction, List.countP_cons,
        Nat.add_comm]
      cases region with
      | single part => cases part <;> rfl
      | block parts =>
          have inside := List.count_eq_zero.mpr (blockStart_notMem_parts parts)
          rw [Region.items, List.map_cons, List.map_append, List.count_cons, List.count_append,
            inside]
          rfl

namespace Grouping

variable {tokens : List Token} {arguments : List Argument} (grouping : Grouping tokens arguments)

theorem countP_isBlock : grouping.regions.countP Region.isBlock = tokens.count .blockStart := by
  rw [← count_blockStart_regions, grouping.tokens_eq]

theorem droppedBlocks_le (compiler : Compiler) :
    grouping.droppedBlocks compiler ≤ grouping.regions.countP Region.isBlock := by
  apply List.countP_mono_left
  intro region _ dropped
  cases region with
  | single part => cases dropped
  | block parts => rfl

end Grouping

namespace Compiler

variable (compiler : Compiler)

theorem length_of_compileTemplate_eq_ok {template : Template} {arguments : List Argument}
    {sql : Text} (compiled : compiler.compileTemplate template arguments = .ok sql) :
    arguments.length = template.placeholderCount := by
  rw [compileTemplate_eq, map_eq_ok_iff] at compiled
  obtain ⟨assembly, evaluated, rfl⟩ := compiled
  obtain ⟨items, paired, -⟩ := (compiler.evaluate_eq_ok_iff _ _ _).mp evaluated
  exact Item.exists_items_iff.mpr ⟨items, Item.pair?_eq_some_iff.mp paired⟩

/-- A compilation that succeeds is reported with the numbers of its template and of its blocks. -/
theorem eventOf_evaluate {template : Template} {arguments : List Argument} {sql : Text}
    (compiled : compiler.compileTemplate template arguments = .ok sql)
    (grouping : Grouping template.tokens arguments) :
    compiler.eventOf template (compiler.evaluate template.tokens arguments) =
      .compiled arguments.length (grouping.regions.countP Region.isBlock)
        (grouping.droppedBlocks compiler) (Text.shorten compiler.settings.loggedLength sql) := by
  obtain ⟨supported, rfl⟩ :=
    (compiler.compileTemplate_eq_ok_iff_of_grouping grouping sql).mp compiled
  rw [← grouping.filterMap_slot?_items] at supported
  rw [compiler.evaluate_grouping grouping supported, eventOf, Event.ofAssembly,
    grouping.length_arguments, grouping.countP_isBlock]
  rfl

theorem compileTemplate_loggedLength (limit : Option Nat) (template : Template)
    (arguments : List Argument) :
    (Compiler.mk compiler.escaper { compiler.settings with loggedLength := limit }).compileTemplate
        template arguments =
      compiler.compileTemplate template arguments :=
  rfl

/-- A compilation is reported by one event. That of a success shows the numbers of placeholders,
blocks and dropped blocks and the query; that of a failure shows the source and the error. The limit
on what is shown has no influence on the result. -/
theorem observe_events (template : Template) (arguments : List Argument) :
    ∃ event, (compiler.observe template arguments).events = [event] ∧
      (compiler.observe template arguments).result = compiler.compileTemplate template arguments ∧
      (∀ sql, compiler.compileTemplate template arguments = .ok sql →
        arguments.length = template.source.count '?' ∧
        Nonempty (Grouping template.tokens arguments) ∧
        ∀ grouping : Grouping template.tokens arguments,
          let blocks := grouping.regions.countP Region.isBlock
          let dropped := grouping.regions.countP (Region.isDropped compiler)
          event = .compiled arguments.length blocks dropped
            (Text.shorten compiler.settings.loggedLength sql) ∧
          dropped ≤ blocks ∧
          blocks = (List.range template.source.length).countP fun position =>
            decide (Token.ClosesBlock template.source position)) ∧
      (∀ error, compiler.compileTemplate template arguments = .error error →
        event = .failed (Text.shorten compiler.settings.loggedLength template.source)
          error.message) ∧
      ∀ limit, (Compiler.mk compiler.escaper
          { compiler.settings with loggedLength := limit }).compileTemplate template arguments =
        compiler.compileTemplate template arguments := by
  rw [observe_eq]
  refine ⟨_, rfl, rfl, ?_, ?_, fun limit => compiler.compileTemplate_loggedLength limit _ _⟩
  · intro sql compiled
    have count := compiler.length_of_compileTemplate_eq_ok compiled
    refine ⟨count.trans template.placeholderCount_eq, Grouping.nonempty_of_template count, ?_⟩
    intro grouping
    refine ⟨compiler.eventOf_evaluate compiled grouping, grouping.droppedBlocks_le compiler, ?_⟩
    rw [grouping.countP_isBlock]
    exact template.blockCount_eq
  · intro error failed
    rw [compileTemplate_eq, map_eq_error_iff] at failed
    rw [failed]
    rfl

/-- Of two blocks the one with two skips is dropped. The skip outside blocks and the brace that is
not closed do not count. -/
theorem observe_events_of_stray_braces :
    let source : Text := ['?', '}', '{', 'b', '{', '?', '?', '}', '{', 'c', '?', '}', '{']
    let arguments : List Argument := [.skip, .skip, .skip, .null]
    let settings : Settings := { loggedLength := some 3 }
    let compiler : Compiler := { settings }
    compiler.compile source arguments = .ok (skipMarker ++ ['c', 'N', 'U', 'L', 'L']) ∧
      (compiler.observe (.parse source) arguments).events =
        [.compiled 4 2 1 ['_', '_', '-', '.', '.', '.']] := by
  intro source arguments settings compiler
  let grouping : Grouping (Template.parse source).tokens arguments :=
    { regions :=
        [.single (.placeholder .auto .skip),
          .block [.text ['b'], .placeholder .auto .skip, .placeholder .auto .skip],
          .block [.text ['c'], .placeholder .auto .null]]
      tokens_eq := by decide +kernel
      arguments_eq := rfl }
  have compiled : compiler.compileTemplate (.parse source) arguments =
      .ok (skipMarker ++ ['c', 'N', 'U', 'L', 'L']) := by decide +kernel
  have blocks : grouping.regions.countP Region.isBlock = 2 := rfl
  have dropped : grouping.regions.countP (Region.isDropped compiler) = 1 := by decide +kernel
  refine ⟨compiled, ?_⟩
  obtain ⟨event, events, -, succeeded, -⟩ := observe_events compiler (.parse source) arguments
  obtain ⟨-, -, reported⟩ := succeeded _ compiled
  rw [events, (reported grouping).1, blocks, dropped]
  decide +kernel

end Compiler
end QueryTemplate
