import QueryTemplate.Proofs.Compilation.Meaning
import QueryTemplate.Proofs.Compilation.Recording
import QueryTemplate.Proofs.Rendering.Refusal

/-! # When compiling fails

A compilation fails when the numbers of placeholders and arguments differ, and otherwise when an
argument is refused under its tag. The error is that of the first such argument, and says of it what
is said of such a value. It depends neither on the escaper or the settings nor on the blocks, and
not on what follows that argument.
-/
namespace QueryTemplate

/-- The argument at an index is refused for what is found there, and none before it is refused. -/
structure FirstRefused (slots : List (Tag × Argument)) (index : Nat) (tag : Tag) (found : Found) :
    Prop where
  refused : ∃ argument, slots[index]? = some (tag, argument) ∧
    argument.ending tag = .unsupported found
  earlier : ∀ before < index, ∀ slot, slots[before]? = some slot →
    ∀ other, slot.2.ending slot.1 ≠ .unsupported other

/-- The argument at an index is the first of which something is said, and this is said of it. -/
structure FirstRefusal (slots : List (Tag × Argument)) (index : Nat) (tag : Tag)
    (description : Text) : Prop where
  said : ∃ argument, slots[index]? = some (tag, argument) ∧
    argument.refusal? tag = some description
  earlier : ∀ before < index, ∀ slot, slots[before]? = some slot → slot.2.refusal? slot.1 = none

namespace FirstRefused

variable {slots others : List (Tag × Argument)} {index : Nat} {tag : Tag} {found : Found}

theorem zero_iff {slot : Tag × Argument} :
    FirstRefused (slot :: slots) 0 tag found ↔
      slot.1 = tag ∧ slot.2.ending tag = .unsupported found := by
  constructor
  · rintro ⟨⟨argument, here, refused⟩, -⟩
    rw [List.getElem?_cons_zero, Option.some.injEq] at here
    subst here
    exact ⟨rfl, refused⟩
  · rintro ⟨rfl, refused⟩
    exact ⟨⟨slot.2, rfl, refused⟩, fun before less => absurd less (Nat.not_lt_zero before)⟩

theorem succ_iff {slot : Tag × Argument} :
    FirstRefused (slot :: slots) (index + 1) tag found ↔
      (∀ other, slot.2.ending slot.1 ≠ .unsupported other) ∧
        FirstRefused slots index tag found := by
  constructor
  · rintro ⟨refused, earlier⟩
    refine ⟨earlier 0 (Nat.succ_pos index) slot rfl, refused, ?_⟩
    intro before less
    exact earlier (before + 1) (Nat.succ_lt_succ less)
  · rintro ⟨written, refused, earlier⟩
    refine ⟨refused, ?_⟩
    intro before less other found
    cases before with
    | zero =>
        rw [List.getElem?_cons_zero, Option.some.injEq] at found
        exact found ▸ written
    | succ before => exact earlier before (Nat.lt_of_succ_lt_succ less) other found

/-- What comes after the first refused argument has no influence. -/
theorem congr (first : FirstRefused slots index tag found)
    (same : ∀ position ≤ index, others[position]? = slots[position]?) :
    FirstRefused others index tag found := by
  constructor
  · rw [same index (Nat.le_refl index)]
    exact first.refused
  · intro before less
    rw [same before (Nat.le_of_lt less)]
    exact first.earlier before less

/-- The first argument that is refused is the first of which something is said. -/
theorem refusal (first : FirstRefused slots index tag found) :
    FirstRefusal slots index tag found.description := by
  constructor
  · obtain ⟨argument, here, refused⟩ := first.refused
    refine ⟨argument, here, ?_⟩
    rw [← Argument.description?_ending, refused]
    rfl
  · intro before less slot here
    have written := first.earlier before less slot here
    rw [← Argument.description?_ending]
    cases ending : slot.2.ending slot.1 with
    | unsupported other => exact absurd ending (written other)
    | _ => rfl

/-- If any argument is refused, there is a first one. -/
theorem exists_of_mem {slot : Tag × Argument} (member : slot ∈ slots)
    (refused : slot.2.ending slot.1 = .unsupported found) :
    ∃ index tag found, FirstRefused slots index tag found := by
  induction slots with
  | nil => exact absurd member List.not_mem_nil
  | cons head rest induction =>
      cases ending : head.2.ending head.1 with
      | unsupported other => exact ⟨0, head.1, other, zero_iff.mpr ⟨rfl, ending⟩⟩
      | _ =>
          have later : slot ∈ rest := by
            refine (List.mem_cons.mp member).resolve_left ?_
            rintro rfl
            simp [ending] at refused
          obtain ⟨index, tag, other, first⟩ := induction later
          exact ⟨index + 1, tag, other, succ_iff.mpr ⟨by simp [ending], first⟩⟩

end FirstRefused

/-- The error of the first refused argument, when the slots are counted from a position. -/
def RefusesWith (slots : List (Tag × Argument)) (position : Nat) (error : Error) : Prop :=
  ∃ index tag found, FirstRefused slots index tag found ∧
    error = .unsupported (position + index) tag found

namespace RefusesWith

variable {slots : List (Tag × Argument)} {slot : Tag × Argument} {position : Nat} {error : Error}

theorem not_nil : ¬ RefusesWith [] position error := by
  rintro ⟨index, tag, found, ⟨⟨argument, here, -⟩, -⟩, -⟩
  simp at here

theorem cons_iff_of_refused {found : Found}
    (refused : slot.2.ending slot.1 = .unsupported found) :
    RefusesWith (slot :: slots) position error ↔ .unsupported position slot.1 found = error := by
  constructor
  · rintro ⟨index, tag, other, first, rfl⟩
    cases index with
    | zero =>
        obtain ⟨rfl, again⟩ := FirstRefused.zero_iff.mp first
        rw [refused, Ending.unsupported.injEq] at again
        rw [again, Nat.add_zero]
    | succ index => exact absurd refused ((FirstRefused.succ_iff.mp first).1 found)
  · rintro rfl
    exact ⟨0, slot.1, found, FirstRefused.zero_iff.mpr ⟨rfl, refused⟩, rfl⟩

theorem cons_iff_of_written (written : ∀ found, slot.2.ending slot.1 ≠ .unsupported found) :
    RefusesWith (slot :: slots) position error ↔ RefusesWith slots (position + 1) error := by
  constructor
  · rintro ⟨index, tag, found, first, rfl⟩
    cases index with
    | zero =>
        obtain ⟨rfl, refused⟩ := FirstRefused.zero_iff.mp first
        exact absurd refused (written found)
    | succ index =>
        exact ⟨index, tag, found, (FirstRefused.succ_iff.mp first).2,
          by rw [Nat.add_assoc, Nat.add_comm 1 index]⟩
  · rintro ⟨index, tag, found, first, rfl⟩
    exact ⟨index + 1, tag, found, FirstRefused.succ_iff.mpr ⟨written, first⟩,
      by rw [Nat.add_assoc, Nat.add_comm 1 index]⟩

end RefusesWith

namespace Compiler

variable (compiler : Compiler)

/-- Items are written unless an argument is refused, and the first one gives the error. -/
theorem writeItems_eq_error_iff (position : Nat) (items : List Item) (error : Error) :
    compiler.writeItems position items = .error error ↔
      RefusesWith (items.filterMap Item.slot?) position error := by
  induction items generalizing position with
  | nil => simp [writeItems, RefusesWith.not_nil]
  | cons item rest induction =>
      cases item with
      | placeholder tag argument =>
          rw [Item.filterMap_slot?_placeholder, writeItems]
          cases outcome : compiler.rendered tag argument with
          | error found =>
              have refused := (compiler.rendered_eq_error_iff tag argument found).mp outcome
              rw [RefusesWith.cons_iff_of_refused refused, Except.error.injEq]
          | ok text? =>
              have written : ∀ found, argument.ending tag ≠ .unsupported found := by
                intro found refused
                rw [← rendered_eq_error_iff, outcome] at refused
                cases refused
              rw [RefusesWith.cons_iff_of_written written, map_eq_error_iff, induction]
      | _ =>
          rw [writeItems, map_eq_error_iff, induction]
          rfl

theorem evaluate_eq_error_iff (tokens : List Token) (arguments : List Argument) (error : Error) :
    compiler.evaluate tokens arguments = .error error ↔
      if arguments.length = tokens.countP Token.isPlaceholder then
        RefusesWith ((tokens.filterMap Token.tag?).zip arguments) 1 error
      else error = .mismatch (tokens.countP Token.isPlaceholder) arguments.length := by
  by_cases count : arguments.length = tokens.countP Token.isPlaceholder
  · obtain ⟨items, rfl, rfl⟩ := Item.exists_items_iff.mp count
    rw [if_pos count, evaluate, Item.pair?_items, ← Item.filterMap_slot?_eq_zip]
    dsimp only
    rw [assemble, map_eq_error_iff, writeItems_eq_error_iff]
  · rw [if_neg count, evaluate, Item.pair?_eq_none_iff.mpr count]
    dsimp only
    rw [Except.error.injEq, eq_comm]

theorem compileTemplate_eq_error_iff (template : Template) (arguments : List Argument)
    (error : Error) :
    compiler.compileTemplate template arguments = .error error ↔
      if arguments.length = template.placeholderCount then
        RefusesWith (template.slots arguments) 1 error
      else error = .mismatch template.placeholderCount arguments.length := by
  rw [compileTemplate_eq, map_eq_error_iff, evaluate_eq_error_iff]
  rfl

end Compiler

namespace Plan

/-- The plan of tokens that take their arguments as they come, of which the first placeholder has
the given position. A placeholder that finds no argument left ends it. -/
def ofTokens (placeholders position : Nat) : List Token → List Argument → Plan
  | [], _ => ⟨[], none⟩
  | .text characters :: tokens, arguments =>
      (ofTokens placeholders position tokens arguments).cons (.text [.bare characters])
  | .blockStart :: tokens, arguments =>
      (ofTokens placeholders position tokens arguments).cons .blockStart
  | .blockEnd :: tokens, arguments =>
      (ofTokens placeholders position tokens arguments).cons .blockEnd
  | .placeholder _ :: _, [] => ⟨[], some ⟨[], .mismatch placeholders (position - 1)⟩⟩
  | .placeholder tag :: tokens, argument :: arguments =>
      match argument.render tag with
      | ⟨fragments, .complete⟩ =>
          (ofTokens placeholders (position + 1) tokens arguments).cons (.text fragments)
      | ⟨fragments, .skipped⟩ =>
          (ofTokens placeholders (position + 1) tokens arguments).cons (.skipped fragments)
      | ⟨fragments, .unsupported found⟩ =>
          ⟨[], some ⟨fragments, .unsupported position tag found⟩⟩

theorem ofTokens_eq_ofItems (placeholders position : Nat) (items : List Item) :
    ofTokens placeholders position (items.map Item.token) (items.flatMap Item.arguments) =
      ofItems position items := by
  induction items generalizing position with
  | nil => rfl
  | cons item rest induction =>
      rw [List.map_cons, List.flatMap_cons]
      cases item with
      | placeholder tag argument =>
          rw [Item.token, Item.arguments, List.singleton_append, ofTokens, ofItems]
          cases argument.render tag with
          | mk fragments ending => cases ending <;> simp only [induction]
      | _ => exact congrArg (cons _) (induction position)

/-- With an argument for each placeholder, the plan is the same. -/
theorem make_eq_ofTokens {tokens : List Token} {arguments : List Argument}
    (count : arguments.length = tokens.countP Token.isPlaceholder) (placeholders : Nat) :
    make tokens arguments = ofTokens placeholders 1 tokens arguments := by
  obtain ⟨items, rfl, rfl⟩ := Item.exists_items_iff.mp count
  rw [make_items, ofTokens_eq_ofItems]

theorem isMismatch_ofItems (position : Nat) (items : List Item) :
    ∀ failure ∈ (ofItems position items).failure, failure.error.isMismatch = false := by
  induction items generalizing position with
  | nil => simp [ofItems]
  | cons item rest induction =>
      cases item with
      | placeholder tag argument =>
          rw [ofItems]
          split
          · exact induction (position + 1)
          · exact induction (position + 1)
          · simp [Error.isMismatch]
      | _ => exact induction position

theorem isMismatch_make {tokens : List Token} {arguments : List Argument}
    (count : arguments.length = tokens.countP Token.isPlaceholder) :
    ∀ failure ∈ (make tokens arguments).failure, failure.error.isMismatch = false := by
  obtain ⟨items, rfl, rfl⟩ := Item.exists_items_iff.mp count
  rw [make_items]
  exact isMismatch_ofItems 1 items

end Plan

theorem Template.getElem?_slots_of_take {template : Template} {arguments others : List Argument}
    {position index : Nat} (taken : others.take position = arguments.take position)
    (less : index < position) :
    (template.slots others)[index]? = (template.slots arguments)[index]? := by
  have same : others[index]? = arguments[index]? := by
    rw [← List.getElem?_take_of_lt less, taken, List.getElem?_take_of_lt less]
  simp [slots, List.zip, List.getElem?_zipWith, same]

namespace Compiler

variable (compiler : Compiler)

theorem compile_eq_error_iff (source : Text) (arguments : List Argument) (error : Error) :
    compiler.compile source arguments = .error error ↔
      if arguments.length = source.count '?' then
        RefusesWith ((Template.parse source).slots arguments) 1 error
      else error = .mismatch (source.count '?') arguments.length := by
  have count : (Template.parse source).placeholderCount = source.count '?' :=
    (Template.parse source).placeholderCount_eq
  rw [compile, compileTemplate_eq_error_iff, count]

theorem observe_escaped_of_mismatch {template : Template} {arguments : List Argument}
    (different : arguments.length ≠ template.placeholderCount) :
    (compiler.observe template arguments).escaped = [] := by
  rw [observe_eq, Plan.make_of_ne different]
  rfl

theorem exists_compile_eq_error_iff {source : Text} {arguments : List Argument}
    (count : arguments.length = source.count '?') :
    (∃ error, compiler.compile source arguments = .error error) ↔
      ∃ slot ∈ (Template.parse source).slots arguments, ∃ found,
        (slot.2.render slot.1).ending = .unsupported found := by
  simp only [compile_eq_error_iff, if_pos count, Argument.ending_render]
  constructor
  · rintro ⟨error, index, tag, found, ⟨⟨argument, here, refused⟩, -⟩, -⟩
    exact ⟨(tag, argument), List.mem_of_getElem? here, found, refused⟩
  · rintro ⟨slot, member, found, refused⟩
    obtain ⟨index, tag, other, first⟩ := FirstRefused.exists_of_mem member refused
    exact ⟨_, index, tag, other, first, rfl⟩

/-- An unsupported argument is reported by its position with what is said of it, which is not what
a skip is called, and no later argument matters. -/
theorem compile_eq_unsupported {source : Text} {arguments : List Argument} {position : Nat}
    {tag : Tag} {found : Found}
    (failed : compiler.compile source arguments = .error (.unsupported position tag found)) :
    found.description ≠ ['s', 'k', 'i', 'p'] ∧
      (∃ index, position = index + 1 ∧
        FirstRefusal ((Template.parse source).slots arguments) index tag found.description) ∧
      ∀ others : List Argument, others.length = arguments.length →
        others.take position = arguments.take position →
        compiler.compile source others = .error (.unsupported position tag found) := by
  rw [compile_eq_error_iff] at failed
  split at failed
  case isFalse => cases failed
  case isTrue count =>
    obtain ⟨index, otherTag, other, first, same⟩ := failed
    obtain ⟨rfl, rfl, rfl⟩ := Error.unsupported.inj same
    refine ⟨?_, ⟨index, Nat.add_comm 1 index, first.refusal⟩, ?_⟩
    · obtain ⟨argument, -, refused⟩ := first.refused
      exact Found.description_ne_skip (Argument.ne_skip_of_ending refused)
    · intro others length taken
      rw [compile_eq_error_iff, if_pos (length.trans count)]
      refine ⟨index, tag, found, first.congr ?_, rfl⟩
      intro before le
      exact Template.getElem?_slots_of_take taken (by omega)

theorem exists_compile_eq_error_of_block {source : Text} {arguments : List Argument}
    (grouping : Grouping (Template.parse source).tokens arguments) {parts : List Part}
    (block : .block parts ∈ grouping.regions) {tag : Tag} {argument : Argument} {found : Found}
    (inside : .placeholder tag argument ∈ parts)
    (refused : argument.ending tag = .unsupported found) :
    ∃ error, compiler.compile source arguments = .error error := by
  have count : arguments.length = source.count '?' := by
    rw [grouping.length_arguments]
    exact (Template.parse source).placeholderCount_eq
  have item : Item.placeholder tag argument ∈ grouping.items :=
    List.mem_flatMap_of_mem block (by
      simp only [Region.items, List.mem_cons, List.mem_append]
      exact .inr (.inl (List.mem_map_of_mem inside)))
  have slot : (tag, argument) ∈ (Template.parse source).slots arguments := by
    rw [← grouping.filterMap_slot?_items]
    exact List.mem_filterMap.mpr ⟨_, item, rfl⟩
  rw [exists_compile_eq_error_iff compiler count]
  exact ⟨_, slot, found, by rwa [Argument.ending_render]⟩

/-- A compilation fails with a mismatch when the numbers of placeholders and arguments differ, and
then nothing is escaped. Otherwise it fails when some argument cannot be rendered, and the first
such argument gives the error, whatever the escaper and the settings are, whatever arguments come
after it, and whether or not its block is skipped. What is said of an argument is read off the tag
and the values. The rules for single values would say of a skip what it is, but that makes no
difference to any rendering. -/
theorem compile_fails_at_first_refused (source : Text) (arguments : List Argument) :
    (∀ error, compiler.compile source arguments = .error error ↔
      if arguments.length = source.count '?' then
        RefusesWith ((Template.parse source).slots arguments) 1 error
      else error = .mismatch (source.count '?') arguments.length) ∧
    (arguments.length ≠ source.count '?' →
      (compiler.observe (.parse source) arguments).escaped = []) ∧
    (arguments.length = source.count '?' →
      ((∃ error, compiler.compile source arguments = .error error) ↔
        ∃ slot ∈ (Template.parse source).slots arguments, ∃ found,
          (slot.2.render slot.1).ending = .unsupported found)) ∧
    (∀ (other : Compiler) (error : Error),
      compiler.compile source arguments = .error error ↔
        other.compile source arguments = .error error) ∧
    (∀ position tag found,
      compiler.compile source arguments = .error (.unsupported position tag found) →
        found.description ≠ ['s', 'k', 'i', 'p'] ∧
        (∃ index, position = index + 1 ∧
          FirstRefusal ((Template.parse source).slots arguments) index tag found.description) ∧
        ∀ others : List Argument, others.length = arguments.length →
          others.take position = arguments.take position →
          compiler.compile source others = .error (.unsupported position tag found)) ∧
    (∀ tag argument,
      (Argument.render tag argument).ending.description? = argument.refusal? tag) ∧
    ((∀ rule ∈ [Argument.renderBare, Argument.renderInteger, Argument.renderReal],
        (rule .skip).ending.description? = some ['s', 'k', 'i', 'p']) ∧
      (∀ raw, (Argument.renderBare (.text raw)).ending.description? =
        some ['t', 'e', 'x', 't']) ∧
      ∀ rules : Argument.ValueRules, rules.AgreesBehindGuards →
        ∀ tag argument, rules.render tag argument = argument.render tag) ∧
    (∀ value, compiler.compile source arguments ≠ .error (.oversizedInteger value)) ∧
    (∀ grouping : Grouping (Template.parse source).tokens arguments,
      ∀ parts, .block parts ∈ grouping.regions → parts.any (Part.isSkipped compiler) = true →
        ∀ tag argument found, .placeholder tag argument ∈ parts →
          argument.ending tag = .unsupported found →
          ∃ error, compiler.compile source arguments = .error error) ∧
    (arguments.length = source.count '?' →
      let plan := Plan.ofTokens (source.count '?') 1 (Template.parse source).tokens arguments
      Plan.make (Template.parse source).tokens arguments = plan ∧
        ∀ failure ∈ plan.failure, failure.error.isMismatch = false) := by
  have placeholders : (Template.parse source).placeholderCount = source.count '?' :=
    (Template.parse source).placeholderCount_eq
  refine ⟨compiler.compile_eq_error_iff source arguments, ?_, compiler.exists_compile_eq_error_iff,
    ?_, fun _ _ _ => compiler.compile_eq_unsupported, Argument.description?_render,
    ⟨Argument.description?_of_rules.1, Argument.description?_of_rules.2,
      fun _ => Argument.ValueRules.render_eq⟩, ?_, ?_, ?_⟩
  · intro different
    rw [← placeholders] at different
    exact compiler.observe_escaped_of_mismatch different
  · intro other error
    rw [compile_eq_error_iff, compile_eq_error_iff]
  · intro value failed
    rw [compile_eq_error_iff] at failed
    split at failed
    · obtain ⟨index, tag, found, -, different⟩ := failed
      cases different
    · cases failed
  · intro grouping parts block _ tag argument found
    exact compiler.exists_compile_eq_error_of_block grouping block
  · intro count plan
    rw [← placeholders] at count
    have same : Plan.make (Template.parse source).tokens arguments = plan :=
      Plan.make_eq_ofTokens count _
    exact ⟨same, same ▸ Plan.isMismatch_make count⟩

/-- The second placeholder fails in a block that the first one skips, and what the last one would
say is not reported. With too few arguments nothing is rendered. Rules that answer a skip as the
guards do render alike. -/
theorem compile_fails_in_skipped_block :
    let source : Text := ['{', '?', 'd', '?', '}', '?', 'f']
    let arguments : List Argument := [.skip, .collection [], .bool true]
    let block : List Part := [.placeholder .integer .skip, .placeholder .auto (.collection [])]
    let guarded : Argument.ValueRules :=
      ⟨fun argument => argument.unlessSkip argument.renderBare,
        fun argument => argument.unlessSkip argument.renderInteger,
        fun argument => argument.unlessSkip argument.renderReal⟩
    ({} : Compiler).compile source arguments =
      .error (.unsupported 2 .auto (.kind .collection)) ∧
    FirstRefusal ((Template.parse source).slots arguments) 1 .auto
      ['c', 'o', 'l', 'l', 'e', 'c', 't', 'i', 'o', 'n'] ∧
    ({} : Compiler).compile source [.skip, .collection [], .text ['x']] =
      .error (.unsupported 2 .auto (.kind .collection)) ∧
    block.any (Part.isSkipped {}) = true ∧
    (∃ error, ({} : Compiler).compile source arguments = .error error) ∧
    Argument.refusal? .float (.text ['-', '1', 'e', '3', '0', '9']) =
      some (.ofString "non-finite float -inf") ∧
    guarded.AgreesBehindGuards ∧
    guarded.render .integer .skip = Argument.skip.render .integer ∧
    ({} : Compiler).compile source [.text ['x']] = .error (.mismatch 3 1) ∧
    (({} : Compiler).observe (.parse source) [.text ['x']]).escaped = [] := by
  intro source arguments block guarded
  have failed : ({} : Compiler).compile source arguments =
      .error (.unsupported 2 .auto (.kind .collection)) := by decide +kernel
  have few : [Argument.text ['x']].length ≠ source.count '?' := by decide
  have skipped : block.any (Part.isSkipped {}) = true := by decide +kernel
  have agrees : guarded.AgreesBehindGuards :=
    ⟨fun _ other _ => Argument.unlessSkip_of_ne_skip other _,
      fun _ other => Argument.unlessSkip_of_ne_skip other _,
      fun _ other => Argument.unlessSkip_of_ne_skip other _⟩
  let grouping : Grouping (Template.parse source).tokens arguments :=
    { regions := [.block block, .single (.placeholder .float (.bool true))]
      tokens_eq := by decide +kernel
      arguments_eq := rfl }
  obtain ⟨-, -, -, -, unsupported, -, ⟨-, -, sameRules⟩, -, inBlock, -⟩ :=
    compile_fails_at_first_refused {} source arguments
  obtain ⟨failures, unescaped, -⟩ := compile_fails_at_first_refused {} source [.text ['x']]
  obtain ⟨-, ⟨index, position, refusal⟩, others⟩ := unsupported _ _ _ failed
  obtain rfl : index = 1 := by omega
  refine ⟨failed, refusal, others _ rfl rfl, skipped, ?_, by decide +kernel, agrees,
    sameRules guarded agrees .integer .skip, ?_, unescaped few⟩
  · exact inBlock grouping block (List.mem_cons_self ..) skipped .auto (.collection []) _
      (List.mem_cons_of_mem _ (List.mem_cons_self ..)) rfl
  · rw [failures, if_neg few]
    rfl

end Compiler
end QueryTemplate
