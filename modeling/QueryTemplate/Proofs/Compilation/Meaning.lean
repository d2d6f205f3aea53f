import QueryTemplate.Proofs.Compilation.Evaluation
import QueryTemplate.Proofs.Compilation.Regions

/-! # The meaning of a template by its blocks

A region outside blocks means its text, or the marker of a skip. A block means the texts of its
parts, or nothing when one of them is skipped. A compilation gives the meanings of the regions of
its template one after another, so the single pass over all pieces, which keeps the text of an open
block apart until its end, agrees with the structure of the template.
-/
namespace QueryTemplate

/-- The part is a placeholder whose argument gives no text. -/
def Part.isSkipped (compiler : Compiler) : Part → Bool
  | .text _ => false
  | .placeholder tag argument =>
      match compiler.rendered tag argument with
      | .ok none => true
      | _ => false

/-- The text of a part in a query, which is the marker for a skipped placeholder. -/
def Part.sql (compiler : Compiler) : Part → Text
  | .text characters => characters
  | .placeholder tag argument =>
      match compiler.rendered tag argument with
      | .ok (some written) => written
      | .ok none => skipMarker
      | .error _ => []

namespace Region

/-- The region is a block with a skipped placeholder. -/
def isDropped (compiler : Compiler) : Region → Bool
  | .single _ => false
  | .block parts => parts.any (Part.isSkipped compiler)

def sql (compiler : Compiler) : Region → Text
  | .single part => part.sql compiler
  | .block parts =>
      if parts.any (Part.isSkipped compiler) then [] else parts.flatMap (Part.sql compiler)

end Region

namespace Grouping

variable {tokens : List Token} {arguments : List Argument}

def sql (compiler : Compiler) (grouping : Grouping tokens arguments) : Text :=
  grouping.regions.flatMap (Region.sql compiler)

@[simp] theorem sql_append (compiler : Compiler) {otherTokens : List Token}
    {otherArguments : List Argument} (first : Grouping tokens arguments)
    (second : Grouping otherTokens otherArguments) :
    (first.append second).sql compiler = first.sql compiler ++ second.sql compiler :=
  List.flatMap_append

def droppedBlocks (compiler : Compiler) (grouping : Grouping tokens arguments) : Nat :=
  grouping.regions.countP (Region.isDropped compiler)

end Grouping

namespace Compiler

variable (compiler : Compiler)

theorem written_of_isSkipped {part : Part} (skipped : part.isSkipped compiler = true) :
    compiler.written part.item = .skipped ∧ part.sql compiler = skipMarker := by
  cases part with
  | text characters => simp [Part.isSkipped] at skipped
  | placeholder tag argument =>
      cases outcome : compiler.rendered tag argument with
      | error found => simp [Part.isSkipped, outcome] at skipped
      | ok text? =>
          cases text? with
          | none => simp [Part.item, Part.sql, written, writtenOf, outcome]
          | some text => simp [Part.isSkipped, outcome] at skipped

theorem written_of_not_isSkipped {part : Part} (kept : part.isSkipped compiler = false) :
    compiler.written part.item = .text (part.sql compiler) := by
  cases part with
  | text characters => rfl
  | placeholder tag argument =>
      cases outcome : compiler.rendered tag argument with
      | error found => simp [Part.item, Part.sql, written, outcome]
      | ok text? =>
          cases text? with
          | none => simp [Part.isSkipped, outcome] at kept
          | some text => simp [Part.item, Part.sql, written, writtenOf, outcome]

theorem any_isSkipped_iff (parts : List Part) :
    parts.any (Part.isSkipped compiler) = true ↔
      ∃ slot ∈ (parts.map Part.item).filterMap Item.slot?,
        compiler.rendered slot.1 slot.2 = .ok none := by
  induction parts with
  | nil => simp
  | cons part rest induction =>
      rw [List.any_cons, Bool.or_eq_true, induction]
      cases part with
      | text characters => simp [Part.isSkipped, Part.item, Item.slot?, List.filterMap_cons]
      | placeholder tag argument =>
          simp only [Part.isSkipped, Part.item, Item.slot?, List.map_cons, List.filterMap_cons,
            List.mem_cons, exists_eq_or_imp]
          refine or_congr_left ?_
          cases outcome : compiler.rendered tag argument with
          | error found => simp
          | ok text? => cases text? <;> simp

/-- Reading the rest of a block: its text is added to what has been read, unless a placeholder in it
was or is skipped. -/
theorem ofWritten_parts (parts : List Part) (block : OpenBlock) (rest : List Written) :
    Assembly.ofWritten (some block)
        ((parts.map Part.item).map compiler.written ++ .blockEnd :: rest) =
      if block.isSkipped || parts.any (Part.isSkipped compiler) then
        (Assembly.ofWritten none rest).drop
      else
        (Assembly.ofWritten none rest).prepend
          (block.text ++ parts.flatMap (Part.sql compiler)) := by
  induction parts generalizing block with
  | nil => simp [Assembly.ofWritten]
  | cons part others induction =>
      rw [List.map_cons, List.map_cons, List.cons_append]
      cases skipped : part.isSkipped compiler with
      | true =>
          rw [(compiler.written_of_isSkipped skipped).1, Assembly.ofWritten, induction]
          simp [skipped]
      | false =>
          rw [compiler.written_of_not_isSkipped skipped, Assembly.ofWritten, induction]
          simp [skipped]

theorem ofWritten_regions (regions : List Region) :
    Assembly.ofWritten none ((regions.flatMap Region.items).map compiler.written) =
      ⟨regions.flatMap (Region.sql compiler), regions.countP (Region.isDropped compiler)⟩ := by
  induction regions with
  | nil => rfl
  | cons region rest induction =>
      rw [List.flatMap_cons, List.map_append, List.flatMap_cons, List.countP_cons]
      cases region with
      | single part =>
          cases skipped : part.isSkipped compiler with
          | true =>
              obtain ⟨written, sql⟩ := compiler.written_of_isSkipped skipped
              simp [Region.items, written, Assembly.ofWritten, induction, Region.sql, sql,
                Region.isDropped, Assembly.prepend]
          | false =>
              simp [Region.items, compiler.written_of_not_isSkipped skipped, Assembly.ofWritten,
                induction, Region.sql, Region.isDropped, Assembly.prepend]
      | block parts =>
          have start : compiler.written .blockStart = .blockStart := rfl
          have finish : compiler.written .blockEnd = .blockEnd := rfl
          rw [Region.items, List.map_cons, List.map_append, List.map_singleton, start, finish,
            List.cons_append, List.append_assoc, List.singleton_append, Assembly.ofWritten,
            ofWritten_parts, induction]
          cases skipped : parts.any (Part.isSkipped compiler) <;>
            simp [Region.sql, Region.isDropped, skipped, Assembly.prepend, Assembly.drop]

/-- Tokens and arguments that are grouped evaluate to the texts of the regions, if every argument
can be written. -/
theorem evaluate_grouping {tokens : List Token} {arguments : List Argument}
    (grouping : Grouping tokens arguments)
    (supported : ∀ slot ∈ grouping.items.filterMap Item.slot?, compiler.Supports slot) :
    compiler.evaluate tokens arguments =
      .ok ⟨grouping.sql compiler, grouping.droppedBlocks compiler⟩ := by
  rw [evaluate_eq_ok_iff]
  exact ⟨grouping.items, grouping.pair?_eq, supported,
    compiler.ofWritten_regions grouping.regions⟩

theorem supports_of_evaluate_eq_ok {tokens : List Token} {arguments : List Argument}
    {assembly : Assembly} (evaluated : compiler.evaluate tokens arguments = .ok assembly)
    (grouping : Grouping tokens arguments) :
    ∀ slot ∈ grouping.items.filterMap Item.slot?, compiler.Supports slot := by
  obtain ⟨items, paired, supported, -⟩ := (compiler.evaluate_eq_ok_iff _ _ _).mp evaluated
  rw [grouping.pair?_eq, Option.some.injEq] at paired
  rwa [paired]

/-- Grouped tokens have a query exactly when every argument can be written, and then the texts of
the regions are it. -/
theorem evaluate_map_sql_eq_ok_iff {tokens : List Token} {arguments : List Argument}
    (grouping : Grouping tokens arguments) (sql : Text) :
    (compiler.evaluate tokens arguments).map Assembly.sql = .ok sql ↔
      (∀ slot ∈ grouping.items.filterMap Item.slot?, compiler.Supports slot) ∧
        grouping.sql compiler = sql := by
  rw [map_eq_ok_iff]
  constructor
  · rintro ⟨assembly, evaluated, rfl⟩
    have supported := compiler.supports_of_evaluate_eq_ok evaluated grouping
    rw [compiler.evaluate_grouping grouping supported, Except.ok.injEq] at evaluated
    exact ⟨supported, congrArg Assembly.sql evaluated⟩
  · rintro ⟨supported, rfl⟩
    exact ⟨_, compiler.evaluate_grouping grouping supported, rfl⟩

theorem compile_eq_ok_iff_of_grouping {source : Text} {tokens : List Token}
    {arguments : List Argument} (scanned : Token.scan false source = tokens)
    (grouping : Grouping tokens arguments) (sql : Text) :
    compiler.compile source arguments = .ok sql ↔
      (∀ slot ∈ grouping.items.filterMap Item.slot?, compiler.Supports slot) ∧
        grouping.sql compiler = sql := by
  rw [compile_eq, scanned, evaluate_map_sql_eq_ok_iff]

theorem compileTemplate_eq_ok_iff_of_grouping {template : Template} {arguments : List Argument}
    (grouping : Grouping template.tokens arguments) (sql : Text) :
    compiler.compileTemplate template arguments = .ok sql ↔
      (∀ slot ∈ template.slots arguments, compiler.Supports slot) ∧
        grouping.sql compiler = sql := by
  rw [compileTemplate_eq, compiler.evaluate_map_sql_eq_ok_iff grouping,
    grouping.filterMap_slot?_items]

/-- A template whose arguments are as many as its placeholders and can all be written has a
grouping, and compiles to the texts of its regions. -/
theorem compile_eq_sql_of_grouping (source : Text) (arguments : List Argument)
    (count : arguments.length = (Template.parse source).placeholderCount)
    (supported : ∀ slot ∈ (Template.parse source).slots arguments, compiler.Supports slot) :
    Nonempty (Grouping (Template.parse source).tokens arguments) ∧
      ∀ grouping : Grouping (Template.parse source).tokens arguments,
        compiler.compile source arguments = .ok (grouping.sql compiler) := by
  refine ⟨Grouping.nonempty_of_template count, ?_⟩
  intro grouping
  rw [compile, compileTemplate_eq, compiler.evaluate_grouping grouping]
  · rfl
  · rwa [grouping.filterMap_slot?_items]

/-- A skip outside blocks leaves the marker, a skip after the text of a block drops the block, and
an unterminated brace opens none. -/
theorem compile_eq_sql_of_mixed_regions :
    let source : Text :=
      ['a', '?', '}', '{', 'b', '?', '?', 'd', '}', '{', '?', '#', '}', '{', 'e', '?']
    let arguments : List Argument :=
      [.skip, .text ['}', '{'], .skip, .text ['x'], .bool true]
    arguments.length = (Template.parse source).placeholderCount ∧
      (∀ slot ∈ (Template.parse source).slots arguments, ({} : Compiler).Supports slot) ∧
      ({} : Compiler).compile source arguments =
        .ok ('a' :: skipMarker ++ ['\x60', 'x', '\x60', 'e', '1']) := by
  intro source arguments
  have count : arguments.length = (Template.parse source).placeholderCount := by decide +kernel
  have supported : ∀ slot ∈ (Template.parse source).slots arguments,
      ({} : Compiler).Supports slot := by decide +kernel
  let grouping : Grouping (Template.parse source).tokens arguments :=
    { regions :=
        [.single (.text ['a']), .single (.placeholder .auto .skip),
          .block [.text ['b'], .placeholder .auto (.text ['}', '{']), .placeholder .integer .skip],
          .block [.placeholder .identifier (.text ['x'])],
          .single (.text ['e']), .single (.placeholder .auto (.bool true))]
      tokens_eq := by decide +kernel
      arguments_eq := rfl }
  have meaning : grouping.sql {} = 'a' :: skipMarker ++ ['\x60', 'x', '\x60', 'e', '1'] := by
    decide +kernel
  refine ⟨count, supported, ?_⟩
  rw [← meaning]
  exact (compile_eq_sql_of_grouping {} source arguments count supported).2 grouping

end Compiler
end QueryTemplate
