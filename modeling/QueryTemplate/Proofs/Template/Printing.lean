import QueryTemplate.Proofs.Compilation.Evaluation
import QueryTemplate.Proofs.Template.Literals

/-! # Printing templates

The tokens of a template can be written back as text. The text differs from the source in braces
only, which are dropped where they neither open nor close a block, and it is read as the same
tokens. The one exception is a literal text that begins with a tag letter and comes directly after
an untagged placeholder: a dropped brace between the two kept them apart in the source.
-/
namespace QueryTemplate

theorem Tag.written_of_ofLetter? {letter : Char} {tag : Tag} (found : ofLetter? letter = some tag) :
    tag.written = ['?', letter] := by
  unfold ofLetter? at found
  split_ifs at found with identifier list integer float <;> cases found
  · rw [identifier, written]
  · rw [list, written]
  · rw [integer, written]
  · rw [float, written]

namespace Token

/-- No untagged placeholder is directly followed by a literal text that begins with a tag letter. -/
def AutosStayApart (tokens : List Token) : Prop :=
  ∀ before characters after, tokens = before ++ .placeholder .auto :: .text characters :: after →
    ¬ Tag.Leads characters

/-- The first token, when printed, does not take a letter from the second. -/
def KeepsTag : Token → Token → Prop
  | .placeholder .auto, .text characters => ¬ Tag.Leads characters
  | _, _ => True

instance : DecidableRel KeepsTag := fun first second => by
  unfold KeepsTag
  split <;> infer_instance

theorem autosStayApart_iff_isChain (tokens : List Token) :
    AutosStayApart tokens ↔ tokens.IsChain KeepsTag := by
  rw [List.isChain_iff_forall_rel_of_append_cons_cons]
  constructor
  · intro apart first second before after split
    unfold KeepsTag
    split
    case h_1 characters => exact apart before characters after split
    case h_2 => trivial
  · intro chain before characters after split
    exact chain split

instance (tokens : List Token) : Decidable (AutosStayApart tokens) :=
  decidable_of_iff' _ (autosStayApart_iff_isChain tokens)

theorem print_cons (token : Token) (rest : List Token) :
    print (token :: rest) = token.written ++ print rest :=
  List.flatMap_cons

theorem blockEnd_mem_of_blocksClosed {tokens : List Token} (closed : BlocksClosed true tokens) :
    .blockEnd ∈ tokens := by
  induction tokens with
  | nil => exact absurd closed.symm Bool.false_ne_true
  | cons token rest induction =>
      cases token with
      | text characters => exact List.mem_cons_of_mem _ (induction closed)
      | placeholder tag => exact List.mem_cons_of_mem _ (induction closed)
      | blockStart => exact absurd closed.1.symm Bool.false_ne_true
      | blockEnd => exact List.mem_cons_self

theorem close_mem_print {tokens : List Token} (closed : BlocksClosed true tokens) :
    '}' ∈ print tokens :=
  List.mem_flatMap_of_mem (blockEnd_mem_of_blocksClosed closed) (List.mem_singleton.mpr rfl)

/-- The text after a placeholder begins with a tag letter only if a literal text does. -/
theorem not_leads_print {rest : List Token} (nonempty : .text [] ∉ rest)
    (chain : (.placeholder .auto :: rest).IsChain KeepsTag) : ¬ Tag.Leads (print rest) := by
  cases rest with
  | nil => simp [print, Tag.Leads]
  | cons token others =>
      rw [List.isChain_cons_cons] at chain
      rw [List.mem_cons, not_or] at nonempty
      rw [print_cons]
      cases token with
      | text characters =>
          have hasFirst : characters ≠ [] := fun empty => nonempty.1 (by rw [empty])
          rw [written, Tag.leads_append_of_ne_nil hasFirst]
          exact chain.1
      | placeholder tag =>
          cases tag <;> simp [written, Tag.written, Tag.leads_cons, Tag.ofLetter?]
      | blockStart => simp [written, Tag.leads_cons, Tag.ofLetter?]
      | blockEnd => simp [written, Tag.leads_cons, Tag.ofLetter?]

theorem scan_print_placeholder {tag : Tag} {rest : List Token} (nonempty : .text [] ∉ rest)
    (chain : (.placeholder tag :: rest).IsChain KeepsTag) (isOpen : Bool) :
    scan isOpen (tag.written ++ print rest) = .placeholder tag :: scan isOpen (print rest) := by
  cases tag with
  | auto => exact scan_question (not_leads_print nonempty chain) isOpen
  | identifier => exact scan_question_letter rfl isOpen (print rest)
  | list => exact scan_question_letter rfl isOpen (print rest)
  | integer => exact scan_question_letter rfl isOpen (print rest)
  | float => exact scan_question_letter rfl isOpen (print rest)

/-- Printed tokens are scanned as their atoms, if their blocks are closed, their literal texts hold
no syntax and no placeholder takes a letter of the text after it. -/
theorem scan_print {isOpen : Bool} {tokens : List Token} (closed : BlocksClosed isOpen tokens)
    (plain : ∀ characters, .text characters ∈ tokens → ∀ character ∈ characters,
      ¬ IsSyntax character)
    (nonempty : .text [] ∉ tokens) (chain : tokens.IsChain KeepsTag) :
    scan isOpen (print tokens) = tokens.flatMap atoms := by
  induction tokens generalizing isOpen with
  | nil =>
      rw [print, List.flatMap_nil, scan, List.flatMap_nil]
  | cons token rest induction =>
      have restPlain : ∀ characters, .text characters ∈ rest → ∀ character ∈ characters,
          ¬ IsSyntax character :=
        fun characters member => plain characters (List.mem_cons_of_mem token member)
      have restNonempty : .text [] ∉ rest :=
        fun member => nonempty (List.mem_cons_of_mem token member)
      rw [print_cons, List.flatMap_cons]
      cases token with
      | text characters =>
          rw [written, scan_literal (plain characters List.mem_cons_self),
            induction closed restPlain restNonempty chain.tail]
      | placeholder tag =>
          rw [written, scan_print_placeholder restNonempty chain,
            induction closed restPlain restNonempty chain.tail]
          rfl
      | blockStart =>
          obtain ⟨rfl, restClosed⟩ := closed
          rw [written, List.singleton_append, scan_open (close_mem_print restClosed),
            induction restClosed restPlain restNonempty chain.tail]
          rfl
      | blockEnd =>
          obtain ⟨rfl, restClosed⟩ := closed
          rw [written, List.singleton_append, scan_close,
            induction restClosed restPlain restNonempty chain.tail]
          rfl

def withoutBraces (text : Text) : Text :=
  text.filter fun character => character ≠ '{' ∧ character ≠ '}'

theorem withoutBraces_append (first second : Text) :
    withoutBraces (first ++ second) = withoutBraces first ++ withoutBraces second :=
  List.filter_append first second

theorem print_atoms (token : Token) : print token.atoms = token.written := by
  cases token with
  | text characters =>
      rw [print, atoms, List.flatMap_map]
      exact List.flatMap_singleton' characters
  | placeholder tag => exact List.flatMap_singleton written (.placeholder tag)
  | blockStart => rfl
  | blockEnd => rfl

theorem print_flatMap_atoms (tokens : List Token) :
    print (tokens.flatMap atoms) = print tokens := by
  rw [print, List.flatMap_assoc]
  exact List.flatMap_congr fun token _ => print_atoms token

theorem withoutBraces_print_cons (token : Token) (rest : List Token) :
    withoutBraces (print (token :: rest)) =
      withoutBraces token.written ++ withoutBraces (print rest) := by
  rw [print_cons, withoutBraces_append]

/-- The tokens of a scan hold all characters of the text but braces, in order. -/
theorem withoutBraces_print_scan (isOpen : Bool) (text : Text) :
    withoutBraces (print (scan isOpen text)) = withoutBraces text := by
  induction isOpen, text using scan_induction with
  | nil isOpen => rfl
  | tagged isOpen mark tag after found induction =>
      rw [scan_question_letter found, withoutBraces_print_cons, induction, written,
        Tag.written_of_ofLetter? found, ← withoutBraces_append]
      rfl
  | untagged isOpen rest plain induction =>
      rw [scan_question plain, withoutBraces_print_cons, induction]
      rfl
  | opening rest closes induction =>
      rw [scan_open closes, withoutBraces_print_cons, induction]
      rfl
  | unclosed rest absent induction =>
      rw [scan_open_of_notMem absent, induction]
      rfl
  | nested rest induction =>
      rw [scan_open_of_isOpen, induction]
      rfl
  | closing rest induction =>
      rw [scan_close, withoutBraces_print_cons, induction]
      rfl
  | stray rest induction =>
      rw [scan_close_of_not_isOpen, induction]
      rfl
  | letter isOpen character rest question opening closing induction =>
      rw [scan_letter question opening closing, withoutBraces_print_cons, induction,
        ← withoutBraces_append]
      rfl

end Token

namespace Template

theorem withoutBraces_print (template : Template) :
    Token.withoutBraces (Token.print template.tokens) = Token.withoutBraces template.source := by
  rw [template.tokens_eq, ← Token.print_flatMap_atoms, Token.atoms_mergeText,
    Token.print_flatMap_atoms, Token.withoutBraces_print_scan]

theorem tokens_parse_print (template : Template) (apart : Token.AutosStayApart template.tokens) :
    (parse (Token.print template.tokens)).tokens = template.tokens := by
  have merged : template.tokens.IsChain Token.Apart := by
    rw [template.tokens_eq]
    exact Token.isChain_mergeText _
  have scanned : Token.scan false (Token.print template.tokens) =
      template.tokens.flatMap Token.atoms :=
    Token.scan_print template.blocksClosed (fun _ => template.not_isSyntax_of_mem_tokens)
      template.text_nil_notMem_tokens ((Token.autosStayApart_iff_isChain _).mp apart)
  calc
    (parse (Token.print template.tokens)).tokens
        = Token.mergeText (template.tokens.flatMap Token.atoms) := congrArg Token.mergeText scanned
    _ = Token.mergeText template.tokens :=
        Token.mergeText_flatMap_atoms template.text_nil_notMem_tokens
    _ = template.tokens := Token.mergeText_of_isChain merged

/-- The tokens of a source are those of their printed text, unless printing brings a tag letter next
to an untagged placeholder; so the two have the same placeholders and blocks and compile alike.
Always, the printed text and the source are the same but for their braces. -/
theorem parse_print (source : Text) :
    (Token.AutosStayApart (parse source).tokens →
      let printed := Token.print (parse source).tokens
      (parse printed).tokens = (parse source).tokens ∧
        (parse printed).placeholderCount = (parse source).placeholderCount ∧
        (parse printed).blockCount = (parse source).blockCount ∧
        ∀ (compiler : Compiler) (arguments : List Argument),
          compiler.compile printed arguments = compiler.compile source arguments) ∧
    Token.withoutBraces (Token.print (parse source).tokens) = Token.withoutBraces source := by
  refine ⟨?_, (parse source).withoutBraces_print⟩
  intro apart printed
  have tokens_eq : (parse printed).tokens = (parse source).tokens :=
    (parse source).tokens_parse_print apart
  refine ⟨tokens_eq, ?_, ?_, ?_⟩
  · rw [placeholderCount, tokens_eq, placeholderCount]
  · rw [blockCount, tokens_eq, blockCount]
  · intro compiler arguments
    rw [Compiler.compile, Compiler.compile, Compiler.compileTemplate_eq, tokens_eq,
      Compiler.compileTemplate_eq]

/-- Of seven braces four are printed, and one of these keeps the sign `#` off the placeholder. -/
theorem parse_print_of_stray_braces :
    let source : Text := ['}', 'a', '{', 'b', '{', '?', '}', '#', '{', '?', 'd', 'c', '}', '{', 'd']
    let printed : Text := ['a', '{', 'b', '?', '}', '#', '{', '?', 'd', 'c', '}', 'd']
    Token.AutosStayApart (parse source).tokens ∧
      Token.print (parse source).tokens = printed ∧
      (parse printed).tokens = (parse source).tokens ∧
      (parse printed).placeholderCount = 2 ∧ (parse printed).blockCount = 2 ∧
      ({} : Compiler).compile printed [.null, .skip] =
        ({} : Compiler).compile source [.null, .skip] := by
  intro source printed
  have tokens_eq : (parse source).tokens =
      [.text ['a'], .blockStart, .text ['b'], .placeholder .auto, .blockEnd, .text ['#'],
        .blockStart, .placeholder .integer, .text ['c'], .blockEnd, .text ['d']] := by
    decide +kernel
  have apart : Token.AutosStayApart (parse source).tokens := by
    rw [tokens_eq]
    decide
  have print_eq : Token.print (parse source).tokens = printed := by
    rw [tokens_eq]
    rfl
  obtain ⟨same, placeholders, blocks, compiled⟩ := (parse_print source).1 apart
  rw [print_eq] at same placeholders blocks compiled
  refine ⟨apart, print_eq, same, ?_, ?_, compiled {} [.null, .skip]⟩
  · rw [placeholders]
    decide +kernel
  · rw [blocks]
    decide +kernel

/-- The dropped brace kept the letter off the placeholder, and printing brings it there. -/
example :
    Token.print (parse ['?', '{', 'd']).tokens = ['?', 'd'] ∧
      (parse ['?', '{', 'd']).tokens = [.placeholder .auto, .text ['d']] ∧
      (parse ['?', 'd']).tokens = [.placeholder .integer] := by
  decide +kernel

end Template
end QueryTemplate
