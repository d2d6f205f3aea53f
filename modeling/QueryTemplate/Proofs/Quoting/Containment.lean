import QueryTemplate.Proofs.Compilation.Fragments
import QueryTemplate.Proofs.Quoting.Arguments

/-! # Quoted text is contained

When every placeholder stands directly after a literal text and literals hold no quotes, a query of
one of the built-in escapers is read as the quoted tokens that its arguments write, each with the
text that was given. No text can close its quotes early, open others, or reach over a dropped block.
-/
namespace QueryTemplate

namespace Token

/-- Every placeholder stands directly after a literal text. -/
def PlaceholdersFollowText (tokens : List Token) : Prop :=
  ∀ before placeholder after, tokens = before ++ placeholder :: after →
    placeholder.isPlaceholder = true →
      ∃ earlier characters, before = earlier ++ [.text characters]

def MayPrecede (first second : Token) : Prop :=
  second.isPlaceholder = true → first.isText = true

instance (first second : Token) : Decidable (MayPrecede first second) :=
  inferInstanceAs (Decidable (_ → _))

theorem placeholdersFollowText_iff_isChain (tokens : List Token) :
    PlaceholdersFollowText tokens ↔ (Token.blockEnd :: tokens).IsChain MayPrecede := by
  rw [List.isChain_iff_forall_rel_of_append_cons_cons]
  constructor
  · intro follow first second earlier after split placeholder
    cases earlier with
    | nil =>
        rw [List.nil_append, List.cons.injEq] at split
        obtain ⟨others, characters, empty⟩ := follow [] second after split.2 placeholder
        simp at empty
    | cons start others =>
        rw [List.cons_append, List.cons.injEq] at split
        obtain ⟨before, characters, ends⟩ :=
          follow (others ++ [first]) second after (by simp [split.2]) placeholder
        obtain ⟨-, last⟩ := List.append_inj' ends rfl
        rw [List.singleton_inj.mp last]
        rfl
  · rintro chain before token after rfl placeholder
    rcases List.eq_nil_or_concat before with rfl | ⟨earlier, last, rfl⟩
    · have preceded := @chain .blockEnd token [] after rfl placeholder
      simp [isText] at preceded
    · rw [List.concat_eq_append, List.append_assoc] at chain
      have preceded := @chain last token (.blockEnd :: earlier) after rfl placeholder
      cases last with
      | text characters => exact ⟨earlier, characters, List.concat_eq_append⟩
      | _ => simp [isText] at preceded

instance (tokens : List Token) : Decidable (PlaceholdersFollowText tokens) :=
  decidable_of_iff' _ (placeholdersFollowText_iff_isChain tokens)

end Token

/-- The quoted tokens that a part writes: those of its argument, unless it is skipped. -/
def Part.quoted (compiler : Compiler) : Part → List Quoted
  | .text _ => []
  | .placeholder tag argument =>
      if (Part.placeholder tag argument).isSkipped compiler then []
      else argument.quoted compiler.escaper tag

/-- The quoted tokens that a region writes, none for a dropped block. -/
def Region.quoted (compiler : Compiler) : Region → List Quoted
  | .single part => part.quoted compiler
  | .block parts =>
      if parts.any (Part.isSkipped compiler) then [] else parts.flatMap (Part.quoted compiler)

def Grouping.quoted (compiler : Compiler) {tokens : List Token} {arguments : List Argument}
    (grouping : Grouping tokens arguments) : List Quoted :=
  grouping.regions.flatMap (Region.quoted compiler)

namespace Compiler

variable (compiler : Compiler)

theorem quoted?_part_fragments {part : Part}
    (supported : ∀ slot ∈ part.item.slot?, compiler.Supports slot) :
    part.fragments.filterMap (Fragment.quoted? compiler.escaper) = part.quoted compiler := by
  cases part with
  | text characters => rfl
  | placeholder tag argument =>
      have supports := supported _ rfl
      have read := @Argument.quoted?_render compiler.escaper tag argument
      unfold Supports rendered at supports
      rw [Part.fragments, Part.quoted, Part.isSkipped, rendered]
      cases rendering : argument.render tag with
      | mk fragments ending =>
          rw [rendering] at supports read
          cases ending with
          | complete => exact read rfl
          | skipped => rfl
          | unsupported found => exact absurd rfl (supports found)

theorem quoted?_region_fragments {region : Region}
    (supported : ∀ slot ∈ region.items.filterMap Item.slot?, compiler.Supports slot) :
    (region.fragments compiler).filterMap (Fragment.quoted? compiler.escaper) =
      region.quoted compiler := by
  have each : ∀ part : Part, part.item ∈ region.items →
      part.fragments.filterMap (Fragment.quoted? compiler.escaper) = part.quoted compiler := by
    intro part member
    apply quoted?_part_fragments
    intro slot found
    exact supported slot (List.mem_filterMap.mpr ⟨part.item, member, found⟩)
  cases region with
  | single part => exact each part (by simp [Region.items])
  | block parts =>
      rw [Region.fragments, Region.quoted]
      split
      · rfl
      · rw [List.filterMap_flatMap]
        apply List.flatMap_congr
        intro part member
        exact each part (by simp [Region.items, List.mem_map_of_mem member])

theorem quoted?_grouping_fragments {tokens : List Token} {arguments : List Argument}
    (grouping : Grouping tokens arguments)
    (supported : ∀ slot ∈ grouping.items.filterMap Item.slot?, compiler.Supports slot) :
    (grouping.fragments compiler).filterMap (Fragment.quoted? compiler.escaper) =
      grouping.quoted compiler := by
  rw [Grouping.fragments, List.filterMap_flatMap]
  apply List.flatMap_congr
  intro region member
  apply compiler.quoted?_region_fragments
  exact fun slot found => supported slot (grouping.mem_slots_of_mem_region member found)

end Compiler

theorem not_isQuote_of_isBareCharacter (quote : IdentifierQuote) {character : Char}
    (bare : IsBareCharacter character) : ¬ IsQuote quote.character character := by
  rintro (rfl | rfl)
  · revert bare
    decide
  · cases quote <;> revert bare <;> decide

theorem not_isQuote_of_mem_skipMarker (quote : IdentifierQuote) :
    ∀ character ∈ skipMarker, ¬ IsQuote quote.character character := by
  cases quote <;> exact forall_of_all (by decide)

/-- A part in its place keeps quoted text apart, and after a literal text there is none. -/
theorem Part.spaced {previous : Token} {before : Bool} {part : Part}
    (precedes : previous.MayPrecede part.item.token) (nonempty : part.item.token ≠ .text [])
    (apart : previous.isText = true → before = false) :
    Fragment.Spaced before part.fragments ∧
      (part.item.token.isText = true →
        part.fragments.foldl Fragment.endsQuoted before = false) := by
  cases part with
  | text characters =>
      refine ⟨trivial, fun _ => ?_⟩
      cases characters with
      | nil => exact absurd rfl nonempty
      | cons character others => rfl
  | placeholder tag argument =>
      refine ⟨?_, (absurd · Bool.false_ne_true)⟩
      rw [apart (precedes rfl)]
      rcases Part.fragments_placeholder tag argument with marked | phrase
      · rw [marked]
        trivial
      · exact phrase.spaced

theorem spaced_parts {parts : List Part} {previous : Token} {before : Bool}
    (chain : (previous :: (parts.map Part.item).map Item.token).IsChain Token.MayPrecede)
    (nonempty : .text [] ∉ (parts.map Part.item).map Item.token)
    (apart : previous.isText = true → before = false) :
    Fragment.Spaced before (parts.flatMap Part.fragments) := by
  induction parts generalizing previous before with
  | nil => trivial
  | cons part rest induction =>
      rw [List.map_cons, List.map_cons, List.isChain_cons_cons] at chain
      rw [List.map_cons, List.map_cons, List.mem_cons, not_or] at nonempty
      rw [List.flatMap_cons, Fragment.spaced_append]
      have here := Part.spaced chain.1 (Ne.symm nonempty.1) apart
      exact ⟨here.1, induction chain.2 nonempty.2 here.2⟩

/-- Regions keep quoted text apart if each placeholder in them follows a literal text: what stands
before a dropped block is not joined to a placeholder after it. -/
theorem spaced_regions (compiler : Compiler) {regions : List Region} {previous : Token}
    {before : Bool}
    (chain : (previous :: (regions.flatMap Region.items).map Item.token).IsChain Token.MayPrecede)
    (nonempty : .text [] ∉ (regions.flatMap Region.items).map Item.token)
    (apart : previous.isText = true → before = false) :
    Fragment.Spaced before (regions.flatMap (Region.fragments compiler)) := by
  induction regions generalizing previous before with
  | nil => trivial
  | cons region rest induction =>
      rw [List.flatMap_cons, List.map_append] at chain nonempty
      rw [List.mem_append, not_or] at nonempty
      rw [List.flatMap_cons, Fragment.spaced_append]
      cases region with
      | single part =>
          rw [Region.items, List.map_singleton] at chain nonempty
          rw [List.singleton_append, List.isChain_cons_cons] at chain
          have here := Part.spaced chain.1 (Ne.symm (List.ne_of_not_mem_cons nonempty.1)) apart
          exact ⟨here.1, induction chain.2 nonempty.2 here.2⟩
      | block parts =>
          have tokens_eq : (Region.block parts).items.map Item.token =
              .blockStart :: ((parts.map Part.item).map Item.token ++ [.blockEnd]) := by
            simp [Region.items, Item.token]
          rw [tokens_eq, List.cons_append, List.append_assoc, List.singleton_append,
            List.isChain_cons_cons, ← List.cons_append, List.isChain_split] at chain
          rw [tokens_eq, List.mem_cons, List.mem_append, not_or, not_or] at nonempty
          refine ⟨?_, induction chain.2.2 nonempty.2 (absurd · Bool.false_ne_true)⟩
          rw [Region.fragments]
          split
          · trivial
          · exact spaced_parts chain.2.1.left_of_append nonempty.1.2.1
              (absurd · Bool.false_ne_true)

theorem not_isQuote_of_notMem (quote : IdentifierQuote) {character : Char}
    (plain : character ∉ ['\'', '"', '\x60', '\\']) : ¬ IsQuote quote.character character := by
  rintro (rfl | rfl)
  · exact plain (by decide)
  · cases quote <;> exact plain (by decide)

theorem Grouping.lex_sql (dialect : Dialect) (settings : Settings) {tokens : List Token}
    {arguments : List Argument} (grouping : Grouping tokens arguments)
    (follow : Token.PlaceholdersFollowText tokens) (nonempty : .text [] ∉ tokens)
    (plain : ∀ characters, .text characters ∈ tokens →
      ∀ character ∈ characters, ¬ IsQuote settings.identifierQuote.character character)
    (supported : ∀ slot ∈ grouping.items.filterMap Item.slot?,
      (Compiler.mk dialect.escaper settings).Supports slot) :
    dialect.lex settings.identifierQuote.character (grouping.sql ⟨dialect.escaper, settings⟩) =
      some (grouping.quoted ⟨dialect.escaper, settings⟩) := by
  have bare := grouping.bareWithin
    (fun _ => not_isQuote_of_isBareCharacter settings.identifierQuote)
    (not_isQuote_of_mem_skipMarker settings.identifierQuote) ⟨dialect.escaper, settings⟩ plain
  have spaced : Fragment.Spaced false (grouping.fragments ⟨dialect.escaper, settings⟩) := by
    have chain := (Token.placeholdersFollowText_iff_isChain tokens).mp follow
    rw [← grouping.tokens_eq] at chain nonempty
    exact spaced_regions _ chain nonempty (absurd · Bool.false_ne_true)
  have different : settings.identifierQuote.character ≠ '\'' := by
    cases settings.identifierQuote <;> decide
  rw [← Compiler.textOf_grouping_fragments, ← Compiler.quoted?_grouping_fragments _ _ supported]
  exact Fragment.lex_flatMap_text dialect different bare spaced

/-- What the built-in escapers and the quotes of identifiers, backticks or double quotes, write is
contained: if every placeholder stands directly after a literal text and the literals hold no quotes
and no backslashes, then a query is read to its end outside of quotes, and its quoted tokens are
those of its arguments, in order and without those of dropped blocks. -/
theorem Compiler.lex_compileTemplate (dialect : Dialect) (settings : Settings)
    (template : Template) (arguments : List Argument) (sql : Text)
    (follow : Token.PlaceholdersFollowText template.tokens)
    (plain : ∀ characters, .text characters ∈ template.tokens →
      ∀ character ∈ characters, character ∉ ['\'', '"', '\x60', '\\'])
    (compiled : (Compiler.mk dialect.escaper settings).compileTemplate template arguments =
      .ok sql) :
    Nonempty (Grouping template.tokens arguments) ∧
      (settings.identifierQuote.character =
        match settings.identifierQuote with
        | .backtick => '\x60'
        | .doubleQuote => '"') ∧
      ∀ grouping : Grouping template.tokens arguments,
        dialect.lex settings.identifierQuote.character sql =
          some (grouping.quoted ⟨dialect.escaper, settings⟩) := by
  rw [compileTemplate_eq, map_eq_ok_iff] at compiled
  obtain ⟨assembly, evaluated, rfl⟩ := compiled
  refine ⟨?_, by cases settings.identifierQuote <;> rfl, ?_⟩
  · apply Grouping.nonempty_of_template
    by_contra mismatch
    obtain ⟨items, paired, -⟩ := (evaluate_eq_ok_iff _ _ _ _).mp evaluated
    rw [Item.pair?_eq_none_iff.mpr mismatch] at paired
    exact absurd paired (Option.some_ne_none items).symm
  · intro grouping
    have supported := supports_of_evaluate_eq_ok _ evaluated grouping
    rw [evaluate_grouping _ grouping supported, Except.ok.injEq] at evaluated
    rw [← evaluated]
    apply grouping.lex_sql dialect settings follow template.text_nil_notMem_tokens _ supported
    intro characters member character inside
    exact not_isQuote_of_notMem _ (plain characters member character inside)

/-- Quotes and backslashes in texts stay where they were put, on both sides of a dropped block, in
either dialect and with either quote around identifiers. -/
theorem Compiler.lex_compileTemplate_around_dropped_block :
    let template : Template := .parse
      ['x', '?', '#', '=', '?', '{', 'y', '?', 'w', '?', '}', 'z', '?', 'a']
    let arguments : List Argument :=
      [.text ['\x60', '"', '\''], .text ['\\', '\''], .text ['\''], .skip,
        .collection [(.name ['k'], .text ['\'', ' ', '\x60'])]]
    let backticks : Text :=
      ['x', '\x60', '\x60', '\x60', '\\', '"', '\\', '\'', '\x60', '=', '\'', '\\', '\\', '\\',
        '\'', '\'', 'z', '\x60', 'k', '\x60', ' ', '=', ' ', '\'', '\\', '\'', ' ', '\x60', '\'']
    let doubleQuotes : Text :=
      ['x', '"', '\x60', '"', '"', '\'', '\'', '"', '=', '\'', '\\', '\'', '\'', '\'', 'z', '"',
        'k', '"', ' ', '=', ' ', '\'', '\'', '\'', ' ', '\x60', '\'']
    let doubleQuoting : Settings := { identifierQuote := .doubleQuote }
    Token.PlaceholdersFollowText template.tokens ∧
      (∀ characters, .text characters ∈ template.tokens →
        ∀ character ∈ characters, character ∉ ['\'', '"', '\x60', '\\']) ∧
      (Compiler.mk (Dialect.escaper .mysql) {}).compileTemplate template arguments =
        .ok backticks ∧
      Dialect.lex .mysql '\x60' backticks =
        some [.identifier ['\x60', '\\', '"', '\\', '\''], .string ['\\', '\''],
          .identifier ['k'], .string ['\'', ' ', '\x60']] ∧
      (Compiler.mk (Dialect.escaper .standard) doubleQuoting).compileTemplate template arguments =
        .ok doubleQuotes ∧
      Dialect.lex .standard '"' doubleQuotes =
        some [.identifier ['\x60', '"', '\'', '\''], .string ['\\', '\''], .identifier ['k'],
          .string ['\'', ' ', '\x60']] := by
  intro template arguments backticks doubleQuotes doubleQuoting
  have tokens_eq : template.tokens =
      [.text ['x'], .placeholder .identifier, .text ['='], .placeholder .auto, .blockStart,
        .text ['y'], .placeholder .auto, .text ['w'], .placeholder .auto, .blockEnd, .text ['z'],
        .placeholder .list] := by
    decide +kernel
  have follow : Token.PlaceholdersFollowText template.tokens := by
    rw [tokens_eq]
    decide
  have plain : ∀ characters, .text characters ∈ template.tokens →
      ∀ character ∈ characters, character ∉ ['\'', '"', '\x60', '\\'] := by
    intro characters member
    rw [tokens_eq] at member
    simp at member
    rcases member with rfl | rfl | rfl | rfl | rfl <;> exact forall_of_all (by decide)
  have mysql : (Compiler.mk (Dialect.escaper .mysql) {}).compileTemplate template arguments =
      .ok backticks := by
    decide +kernel
  have standard :
      (Compiler.mk (Dialect.escaper .standard) doubleQuoting).compileTemplate template arguments =
        .ok doubleQuotes := by
    decide +kernel
  let grouping : Grouping template.tokens arguments :=
    { regions :=
        [.single (.text ['x']), .single (.placeholder .identifier (.text ['\x60', '"', '\''])),
          .single (.text ['=']), .single (.placeholder .auto (.text ['\\', '\''])),
          .block [.text ['y'], .placeholder .auto (.text ['\'']), .text ['w'],
            .placeholder .auto .skip],
          .single (.text ['z']),
          .single (.placeholder .list
            (.collection [(.name ['k'], .text ['\'', ' ', '\x60'])]))]
      tokens_eq := by decide +kernel
      arguments_eq := rfl }
  have escaped : grouping.quoted ⟨Dialect.escaper .mysql, {}⟩ =
      [.identifier ['\x60', '\\', '"', '\\', '\''], .string ['\\', '\''], .identifier ['k'],
        .string ['\'', ' ', '\x60']] := by
    decide +kernel
  have doubled : grouping.quoted ⟨Dialect.escaper .standard, doubleQuoting⟩ =
      [.identifier ['\x60', '"', '\'', '\''], .string ['\\', '\''], .identifier ['k'],
        .string ['\'', ' ', '\x60']] := by
    decide +kernel
  refine ⟨follow, plain, mysql, ?_, standard, ?_⟩
  · rw [← escaped]
    exact (Compiler.lex_compileTemplate .mysql {} template arguments backticks follow plain
      mysql).2.2 grouping
  · rw [← doubled]
    exact (Compiler.lex_compileTemplate .standard doubleQuoting template arguments doubleQuotes
      follow plain standard).2.2 grouping

end QueryTemplate
