import QueryTemplate.Proofs.Compilation.Meaning

/-! # Deleting blocks from the source

Skipping a placeholder of a block has the effect of deleting the block from the source, and keeping
the block the effect of deleting its braces. The text before the block may hold blocks of its own if
they are closed, and the text after it may hold any braces at all.
-/
namespace QueryTemplate

namespace Token

/-- The scan of a block without braces in it, after a text that leaves no block open. -/
theorem scan_block {before content : Text} (settled : ¬ LeavesOpen before)
    (opening : '{' ∉ content) (closing : '}' ∉ content) (after : Text) :
    scan false (before ++ '{' :: content ++ '}' :: after) =
      scan false before ++ (.blockStart :: (scan false content ++ [.blockEnd]) ++
        scan false after) := by
  have stillOpen : openAfter true content = true :=
    (openAfter_eq_true_iff true content).mpr (Or.inr ⟨rfl, closing⟩)
  have apartFromOpen : Separate before ('{' :: (content ++ '}' :: after)) := by
    simp [Separate, Tag.Leads, Tag.ofLetter?]
  have apartFromClose : Separate content ('}' :: after) := by
    simp [Separate, Tag.Leads, Tag.ofLetter?]
  have contentScan : scan true (content ++ '}' :: after) =
      scan false content ++ .blockEnd :: scan false after := by
    rw [scan_append apartFromClose (Or.inl (not_leavesOpen_of_notMem opening)), stillOpen,
      scan_close, scan_eq_of_notMem closing]
  rw [List.append_assoc, List.cons_append, scan_append_of_not_leavesOpen apartFromOpen settled,
    scan_open (by simp), contentScan]
  simp

/-- The scan of what is left of the block when its braces are deleted. -/
theorem scan_unwrapped {before content after : Text} (settled : ¬ LeavesOpen before)
    (opening : '{' ∉ content) (separateBefore : Separate before (content ++ after))
    (separateAfter : Separate (before ++ content) after) :
    scan false (before ++ content ++ after) =
      scan false before ++ (scan false content ++ scan false after) := by
  rw [List.append_assoc, scan_append_of_not_leavesOpen separateBefore settled,
    scan_append_of_not_leavesOpen (separate_of_append separateAfter)
      (not_leavesOpen_of_notMem opening)]

theorem blockStart_notMem_scan {text : Text} (closing : '}' ∉ text) :
    .blockStart ∉ scan false text := by
  have balanced := count_blockStart_eq (blocksClosed_scan_false text)
  rw [List.count_eq_zero_of_not_mem (blockEnd_notMem_scan closing false)] at balanced
  exact List.count_eq_zero.mp (by omega)

end Token

theorem Template.slots_parse (source : Text) (arguments : List Argument) :
    (parse source).slots arguments =
      ((Token.scan false source).filterMap Token.tag?).zip arguments := by
  rw [slots, (parse source).tokens_eq, Token.filterMap_mergeText fun _ => rfl]
  rfl

theorem exists_parts_of_scan {text : Text} {arguments : List Argument} (closing : '}' ∉ text)
    (count : arguments.length = text.count '?') :
    ∃ parts : List Part, (parts.map Part.item).map Item.token = Token.scan false text ∧
      (parts.map Part.item).flatMap Item.arguments = arguments := by
  obtain ⟨grouping⟩ := Grouping.nonempty_of_scan count
  obtain ⟨parts, parts_eq⟩ := exists_parts
    (grouping.map_token_items.symm ▸ Token.blockStart_notMem_scan closing)
    (grouping.map_token_items.symm ▸ Token.blockEnd_notMem_scan closing false)
  exact ⟨parts, by rw [parts_eq, grouping.map_token_items],
    by rw [parts_eq, grouping.flatMap_arguments_items]⟩

namespace Compiler

variable (compiler : Compiler)

theorem sql_ofParts {tokens : List Token} {arguments : List Argument} (parts : List Part)
    (tokens_eq : (parts.map Part.item).map Item.token = tokens)
    (arguments_eq : (parts.map Part.item).flatMap Item.arguments = arguments) :
    (Grouping.ofParts parts tokens_eq arguments_eq).sql compiler =
      parts.flatMap (Part.sql compiler) := by
  simp [Grouping.sql, Grouping.ofParts, List.flatMap_map, Region.sql]

theorem sql_ofBlock {tokens : List Token} {arguments : List Argument} (parts : List Part)
    (tokens_eq : (parts.map Part.item).map Item.token = tokens)
    (arguments_eq : (parts.map Part.item).flatMap Item.arguments = arguments) :
    (Grouping.ofBlock parts tokens_eq arguments_eq).sql compiler =
      if parts.any (Part.isSkipped compiler) then [] else parts.flatMap (Part.sql compiler) := by
  simp [Grouping.sql, Grouping.ofBlock, Region.sql]

/-- If a text with a block compiles, then it compiles alike without the block when one of its
placeholders is skipped, and without the braces when none is. No question mark may take a tag letter
that the deletion brings next to it. -/
theorem compile_delete_block {before content after : Text}
    {first middle last : List Argument} {sql : Text} (settled : ¬ Token.LeavesOpen before)
    (opening : '{' ∉ content) (closing : '}' ∉ content)
    (firstCount : first.length = before.count '?')
    (middleCount : middle.length = content.count '?')
    (lastCount : last.length = after.count '?')
    (compiled : compiler.compile (before ++ '{' :: content ++ '}' :: after)
      (first ++ middle ++ last) = .ok sql) :
    ((∃ slot ∈ (Template.parse content).slots middle,
        compiler.rendered slot.1 slot.2 = .ok none) →
      Token.Separate before after →
        compiler.compile (before ++ after) (first ++ last) = .ok sql) ∧
    ((∀ slot ∈ (Template.parse content).slots middle,
        compiler.rendered slot.1 slot.2 ≠ .ok none) →
      Token.Separate before (content ++ after) → Token.Separate (before ++ content) after →
        compiler.compile (before ++ content ++ after) (first ++ middle ++ last) = .ok sql) := by
  obtain ⟨beforeGroups⟩ := Grouping.nonempty_of_scan firstCount
  obtain ⟨afterGroups⟩ := Grouping.nonempty_of_scan lastCount
  obtain ⟨parts, tokens_eq, arguments_eq⟩ := exists_parts_of_scan closing middleCount
  have slots_eq : (Template.parse content).slots middle =
      (parts.map Part.item).filterMap Item.slot? := by
    rw [Template.slots_parse, Item.filterMap_slot?_eq_zip, tokens_eq, arguments_eq]
  rw [List.append_assoc first] at compiled ⊢
  rw [compiler.compile_eq_ok_iff_of_grouping (Token.scan_block settled opening closing after)
    (beforeGroups.append ((Grouping.ofBlock parts tokens_eq arguments_eq).append afterGroups))]
    at compiled
  obtain ⟨supported, rfl⟩ := compiled
  simp only [Grouping.items_append, Grouping.items_ofBlock, List.filterMap_append,
    List.mem_append, List.filterMap_cons, Item.slot?] at supported
  rw [slots_eq]
  constructor
  · intro skipped separate
    have dropped : parts.any (Part.isSkipped compiler) = true :=
      (compiler.any_isSkipped_iff parts).mpr skipped
    have scanned := Token.scan_append_of_not_leavesOpen separate settled
    rw [compiler.compile_eq_ok_iff_of_grouping scanned (beforeGroups.append afterGroups)]
    refine ⟨?_, by simp [sql_ofBlock, dropped]⟩
    intro slot member
    rw [Grouping.items_append, List.filterMap_append, List.mem_append] at member
    exact supported slot (member.imp_right Or.inr)
  · intro kept separateBefore separateAfter
    have noneSkipped : ¬ parts.any (Part.isSkipped compiler) = true := by
      rw [any_isSkipped_iff]
      rintro ⟨slot, member, skipped⟩
      exact kept slot member skipped
    have scanned := Token.scan_unwrapped settled opening separateBefore separateAfter
    rw [compiler.compile_eq_ok_iff_of_grouping scanned
      (beforeGroups.append ((Grouping.ofParts parts tokens_eq arguments_eq).append afterGroups))]
    refine ⟨?_, by simp [sql_ofBlock, sql_ofParts, noneSkipped]⟩
    intro slot member
    simp only [Grouping.items_append, Grouping.items_ofParts, List.filterMap_append,
      List.mem_append] at member
    exact supported slot (member.imp_right (Or.imp_left Or.inl))

/-- A block after a stray brace and before an unterminated one, once skipped and once kept. -/
theorem compile_delete_block_among_braces :
    let before : Text := ['a', '?', '}']
    let content : Text := ['b', '?']
    let after : Text := ['}', '{', 'c', '?', '{']
    let whole : Text := before ++ '{' :: content ++ '}' :: after
    (({} : Compiler).compile whole ([.null] ++ [.skip] ++ [.bool true]) =
        .ok ['a', 'N', 'U', 'L', 'L', 'c', '1'] ∧
      ({} : Compiler).compile (before ++ after) ([.null] ++ [.bool true]) =
        .ok ['a', 'N', 'U', 'L', 'L', 'c', '1']) ∧
    (({} : Compiler).compile whole ([.null] ++ [.bool false] ++ [.bool true]) =
        .ok ['a', 'N', 'U', 'L', 'L', 'b', '0', 'c', '1'] ∧
      ({} : Compiler).compile (before ++ content ++ after)
          ([.null] ++ [.bool false] ++ [.bool true]) =
        .ok ['a', 'N', 'U', 'L', 'L', 'b', '0', 'c', '1']) := by
  intro before content after whole
  have settled : ¬ Token.LeavesOpen before := by decide
  have skips : ∃ slot ∈ (Template.parse content).slots [.skip],
      ({} : Compiler).rendered slot.1 slot.2 = .ok none :=
    ⟨(.auto, .skip), List.mem_singleton.mpr rfl, rfl⟩
  have keeps : ∀ slot ∈ (Template.parse content).slots [.bool false],
      ({} : Compiler).rendered slot.1 slot.2 ≠ .ok none := by decide +kernel
  have skipped : ({} : Compiler).compile whole ([.null] ++ [.skip] ++ [.bool true]) =
      .ok ['a', 'N', 'U', 'L', 'L', 'c', '1'] := by decide +kernel
  have kept : ({} : Compiler).compile whole ([.null] ++ [.bool false] ++ [.bool true]) =
      .ok ['a', 'N', 'U', 'L', 'L', 'b', '0', 'c', '1'] := by decide +kernel
  refine ⟨⟨skipped, ?_⟩, ⟨kept, ?_⟩⟩
  · exact (compile_delete_block {} settled (by decide) (by decide) rfl rfl rfl skipped).1
      skips (by decide)
  · exact (compile_delete_block {} settled (by decide) (by decide) rfl rfl rfl kept).2
      keeps (by decide) (by decide)

end Compiler
end QueryTemplate
