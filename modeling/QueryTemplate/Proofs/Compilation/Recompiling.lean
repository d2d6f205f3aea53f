import QueryTemplate.Proofs.Argument.Occurrence
import QueryTemplate.Proofs.Compilation.Escaping
import QueryTemplate.Proofs.Compilation.Fragments
import QueryTemplate.Proofs.Compilation.Reporting
import QueryTemplate.Proofs.Quoting.Reading
import QueryTemplate.Proofs.Template.Literals

/-! # Compiling a query again

A query is a template of its own. If no text among the arguments holds a question mark or a brace,
then neither does the query: literals are free of them, and bare text, quotes and escapes bring
none. As a template it is one literal text, which compiles to itself.
-/
namespace QueryTemplate

section

variable {raw : Text} (plain : ∀ character ∈ raw, ¬ Token.IsSyntax character)

include plain

theorem Fragment.not_isSyntax_of_mem_doubleQuotes (quote : Char) :
    ∀ character ∈ doubleQuotes quote raw, ¬ Token.IsSyntax character := by
  intro written member
  obtain ⟨character, inside, here⟩ := List.mem_flatMap.mp member
  have same : written = character := by
    split at here
    case isTrue isQuote => simpa [isQuote] using here
    case isFalse => exact List.mem_singleton.mp here
  exact same ▸ plain character inside

/-- The escapers of the library add no syntax. -/
theorem Dialect.not_isSyntax_of_mem_escaper (dialect : Dialect) :
    ∀ character ∈ dialect.escaper raw, ¬ Token.IsSyntax character := by
  cases dialect with
  | mysql =>
      exact forall_mem_mysql (by decide) (forall_of_all (by decide)) fun character inside _ =>
        plain character inside
  | standard => exact Fragment.not_isSyntax_of_mem_doubleQuotes plain '\''

theorem Fragment.not_isSyntax_of_mem_quoted {quote : Char} (literal : ¬ Token.IsSyntax quote) :
    ∀ character ∈ quote :: (raw ++ [quote]), ¬ Token.IsSyntax character := by
  rw [List.forall_mem_cons, List.forall_mem_append, List.forall_mem_singleton]
  exact ⟨literal, plain, literal⟩

end

/-- A fragment is written without syntax if its bare or raw text has none. -/
theorem Fragment.not_isSyntax_of_mem_text (dialect : Dialect) (quote : IdentifierQuote)
    {fragment : Fragment}
    (bare : fragment.BareWithin fun character => ¬ Token.IsSyntax character)
    (quoted : ∀ raw, fragment.raw? = some raw → ∀ character ∈ raw, ¬ Token.IsSyntax character) :
    ∀ character ∈ fragment.text dialect.escaper quote.character, ¬ Token.IsSyntax character := by
  cases fragment with
  | bare characters => exact bare
  | literal raw =>
      exact not_isSyntax_of_mem_quoted (dialect.not_isSyntax_of_mem_escaper (quoted raw rfl))
        (by decide)
  | identifier raw =>
      have escaped := dialect.not_isSyntax_of_mem_escaper (quoted raw rfl)
      exact not_isSyntax_of_mem_quoted (not_isSyntax_of_mem_doubleQuotes escaped quote.character)
        (by cases quote <;> decide)

theorem not_isSyntax_of_isBareCharacter {character : Char} (bare : IsBareCharacter character) :
    ¬ Token.IsSyntax character := by
  intro isSyntax
  have each : ∀ mark ∈ ['?', '{', '}'], ¬ IsBareCharacter mark := forall_of_all (by decide)
  exact each character isSyntax bare

namespace Argument

theorem mem_texts_of_mem_ownTexts {argument : Argument} {raw : Text}
    (member : raw ∈ argument.ownTexts) : raw ∈ argument.texts := by
  cases argument with
  | text value => exact member
  | _ => exact absurd member List.not_mem_nil

theorem name?_eq_of_mem_columnTexts {key : Key} {raw : Text} (member : raw ∈ columnTexts key) :
    key.name? = some raw := by
  unfold columnTexts at member
  split at member
  case h_1 => exact absurd member List.not_mem_nil
  case h_2 column =>
    split at member
    · exact absurd member List.not_mem_nil
    · rw [List.mem_singleton.mp member]
      rfl

/-- The escaper is handed texts and names of the argument only. -/
theorem mem_texts_of_mem_escapedTexts {tag : Tag} {argument : Argument} {raw : Text}
    (member : raw ∈ argument.escapedTexts tag) : raw ∈ argument.texts := by
  unfold escapedTexts at member
  split at member
  case h_1 => exact mem_texts_of_mem_ownTexts member
  case h_2 entries =>
    obtain ⟨entry, listed, own⟩ := List.mem_flatMap.mp member
    have found := mem_of_mem_through listed
    exact mem_textsOfEntries_iff.mpr ⟨entry, found, .inr (mem_texts_of_mem_ownTexts own)⟩
  case h_3 => exact mem_texts_of_mem_ownTexts member
  case h_4 entries =>
    obtain ⟨entry, listed, here⟩ := List.mem_flatMap.mp member
    have found := mem_of_mem_through listed
    apply mem_textsOfEntries_iff.mpr
    unfold entryTexts at here
    split at here
    case h_1 => exact absurd here List.not_mem_nil
    case h_2 key value _ =>
      rcases List.mem_append.mp here with label | own
      · exact ⟨(key, value), found, .inl (name?_eq_of_mem_columnTexts label)⟩
      · exact ⟨(key, value), found, .inr (mem_texts_of_mem_ownTexts own)⟩
  all_goals exact absurd member List.not_mem_nil

end Argument

/-- Raw text is written by a placeholder, and is a text of its argument. -/
theorem Part.exists_of_raw? {part : Part} {fragment : Fragment} {raw : Text}
    (member : fragment ∈ part.fragments) (found : fragment.raw? = some raw) :
    ∃ tag argument, part = .placeholder tag argument ∧ raw ∈ argument.texts := by
  cases part with
  | text characters =>
      rw [List.mem_singleton.mp member] at found
      cases found
  | placeholder tag argument =>
      have raws := argument.raws_render tag
      rw [Part.fragments] at member
      cases rendering : argument.render tag with
      | mk fragments ending =>
          rw [rendering] at raws member
          cases ending with
          | complete =>
              have escaped := List.mem_filterMap.mpr ⟨fragment, member, found⟩
              rw [raws] at escaped
              exact ⟨tag, argument, rfl, Argument.mem_texts_of_mem_escapedTexts escaped⟩
          | skipped =>
              rw [List.mem_singleton.mp member] at found
              cases found
          | unsupported refused => exact absurd member List.not_mem_nil

theorem Grouping.exists_of_raw? {compiler : Compiler} {tokens : List Token}
    {arguments : List Argument} (grouping : Grouping tokens arguments) {fragment : Fragment}
    {raw : Text} (member : fragment ∈ grouping.fragments compiler)
    (found : fragment.raw? = some raw) : ∃ argument ∈ arguments, raw ∈ argument.texts := by
  obtain ⟨part, inside, written⟩ := grouping.exists_part_of_mem_fragments member
  obtain ⟨tag, argument, rfl, isText⟩ := Part.exists_of_raw? written found
  refine ⟨argument, ?_, isText⟩
  rw [← grouping.flatMap_arguments_items]
  exact List.mem_flatMap_of_mem inside (List.mem_singleton.mpr rfl)

/-- A query holds no syntax if the texts of its arguments hold none. -/
theorem Grouping.not_isSyntax_of_mem_sql (dialect : Dialect) (settings : Settings)
    {template : Template} {arguments : List Argument}
    (grouping : Grouping template.tokens arguments)
    (plain : ∀ argument ∈ arguments, ∀ text ∈ argument.texts,
      ∀ character ∈ text, ¬ Token.IsSyntax character) :
    ∀ character ∈ grouping.sql ⟨dialect.escaper, settings⟩, ¬ Token.IsSyntax character := by
  have bare := grouping.bareWithin (fun _ => not_isSyntax_of_isBareCharacter)
    (forall_of_all (by decide)) ⟨dialect.escaper, settings⟩
    fun _ => template.not_isSyntax_of_mem_tokens
  intro character member
  rw [← Compiler.textOf_grouping_fragments] at member
  obtain ⟨fragment, found, written⟩ := List.mem_flatMap.mp member
  refine Fragment.not_isSyntax_of_mem_text dialect settings.identifierQuote (bare fragment found) ?_
    character written
  intro raw same
  obtain ⟨argument, among, isText⟩ := grouping.exists_of_raw? found same
  exact plain argument among raw isText

/-- A text without syntax compiles to itself. -/
theorem Compiler.compile_of_plain (compiler : Compiler) {characters : Text}
    (plain : ∀ character ∈ characters, ¬ Token.IsSyntax character) :
    compiler.compile characters [] = .ok characters := by
  rw [compile, compileTemplate_eq, Template.tokens_parse_of_plain plain]
  split
  case isTrue empty => rw [empty]; rfl
  case isFalse =>
    have assembled : compiler.evaluate [.text characters] [] = .ok ⟨characters ++ [], 0⟩ := rfl
    rw [assembled, List.append_nil]
    rfl

/-- If no text or name in an argument holds a question mark or a brace, then a query compiled with
an escaper of the library holds none. It has no placeholder and no block, and compiles to
itself. -/
theorem Compiler.compile_compiled (dialect : Dialect) (settings : Settings) {source : Text}
    {arguments : List Argument} {sql : Text}
    (plain : ∀ argument ∈ arguments, ∀ text ∈ argument.texts,
      ∀ character ∈ text, ¬ Token.IsSyntax character)
    (compiled : (Compiler.mk dialect.escaper settings).compile source arguments = .ok sql) :
    (∀ character ∈ sql, ¬ Token.IsSyntax character) ∧
      (Template.parse sql).placeholderCount = 0 ∧ (Template.parse sql).blockCount = 0 ∧
      ∀ compiler : Compiler, compiler.compile sql [] = .ok sql := by
  obtain ⟨grouping⟩ := Grouping.nonempty_of_template
    (length_of_compileTemplate_eq_ok _ compiled)
  have free : ∀ character ∈ sql, ¬ Token.IsSyntax character := by
    rw [← ((compileTemplate_eq_ok_iff_of_grouping _ grouping sql).mp compiled).2]
    exact grouping.not_isSyntax_of_mem_sql dialect settings plain
  refine ⟨free, ?_, ?_, fun compiler => compiler.compile_of_plain free⟩
  · rw [Template.placeholderCount, Template.tokens_parse_of_plain free]
    split <;> rfl
  · rw [Template.blockCount, Template.tokens_parse_of_plain free]
    split <;> rfl

/-- Quotes and backslashes are escaped, a block is dropped and a skip leaves its marker. -/
theorem Compiler.compile_compiled_of_stray_braces :
    let source : Text :=
      ['a', '}', '?', '{', 'b', '?', '}', '{', '{', '?', 'a', '}', '?', '#', '{']
    let arguments : List Argument :=
      [.skip, .skip, .collection [(.name ['k'], .text ['\'', '\\'])], .text ['\x60']]
    let sql : Text :=
      'a' :: skipMarker ++
        ['\x60', 'k', '\x60', ' ', '=', ' ', '\'', '\\', '\'', '\\', '\\', '\'', '\x60', '\x60',
          '\x60', '\x60']
    (Compiler.mk (Dialect.escaper .mysql) {}).compile source arguments = .ok sql ∧
      (Compiler.mk .standard {}).compile sql [] = .ok sql := by
  intro source arguments sql
  have compiled : (Compiler.mk (Dialect.escaper .mysql) {}).compile source arguments = .ok sql := by
    decide +kernel
  have plain : ∀ argument ∈ arguments, ∀ text ∈ argument.texts,
      ∀ character ∈ text, ¬ Token.IsSyntax character := by
    have texts_eq : arguments.flatMap Argument.texts = [['k'], ['\'', '\\'], ['\x60']] := rfl
    have checked : ∀ text ∈ arguments.flatMap Argument.texts,
        (text.all fun character => decide (¬ Token.IsSyntax character)) = true := by
      rw [texts_eq]
      decide
    intro argument member text isText
    exact forall_of_all (checked text (List.mem_flatMap_of_mem member isText))
  exact ⟨compiled, (compile_compiled .mysql {} plain compiled).2.2.2 (.mk .standard {})⟩

end QueryTemplate
