import QueryTemplate.Proofs.Template.Blocks

/-! # Literal characters

Question marks and braces are read and never kept: the literal texts of a template hold neither. A
text without them is read as literal characters and nothing else, whatever follows it.
-/
namespace QueryTemplate.Token

/-- A character that a template does not keep as literal text. -/
def IsSyntax (character : Char) : Prop := character ∈ ['?', '{', '}']

instance : DecidablePred IsSyntax := fun _ => inferInstanceAs (Decidable (_ ∈ _))

theorem not_isSyntax_iff (character : Char) :
    ¬ IsSyntax character ↔ character ≠ '?' ∧ character ≠ '{' ∧ character ≠ '}' := by
  simp [IsSyntax]

/-- The literal characters of a scan are no syntax. -/
theorem not_isSyntax_of_mem_scan {isOpen : Bool} {text characters : Text}
    (member : .text characters ∈ scan isOpen text) :
    ∀ character ∈ characters, ¬ IsSyntax character := by
  induction isOpen, text using scan_induction with
  | nil isOpen => simp [scan] at member
  | tagged isOpen mark tag after found induction =>
      rw [scan_question_letter found] at member
      exact induction (List.mem_of_ne_of_mem (by simp) member)
  | untagged isOpen rest plain induction =>
      rw [scan_question plain] at member
      exact induction (List.mem_of_ne_of_mem (by simp) member)
  | opening rest closes induction =>
      rw [scan_open closes] at member
      exact induction (List.mem_of_ne_of_mem (by simp) member)
  | unclosed rest absent induction =>
      rw [scan_open_of_notMem absent] at member
      exact induction member
  | nested rest induction =>
      rw [scan_open_of_isOpen] at member
      exact induction member
  | closing rest induction =>
      rw [scan_close] at member
      exact induction (List.mem_of_ne_of_mem (by simp) member)
  | stray rest induction =>
      rw [scan_close_of_not_isOpen] at member
      exact induction member
  | letter isOpen character rest question opening closing induction =>
      rw [scan_letter question opening closing, List.mem_cons] at member
      rcases member with here | later
      · rw [Token.text.inj here, List.forall_mem_singleton, not_isSyntax_iff]
        exact ⟨question, opening, closing⟩
      · exact induction later

/-- A text without syntax is read character by character. -/
theorem scan_literal {characters : Text}
    (plain : ∀ character ∈ characters, ¬ IsSyntax character) (isOpen : Bool) (rest : Text) :
    scan isOpen (characters ++ rest) = (Token.text characters).atoms ++ scan isOpen rest := by
  induction characters with
  | nil => rfl
  | cons character others induction =>
      rw [List.forall_mem_cons, not_isSyntax_iff] at plain
      obtain ⟨⟨question, opening, closing⟩, later⟩ := plain
      rw [List.cons_append, scan_letter question opening closing, induction later]
      rfl

theorem scan_eq_atoms {characters : Text}
    (plain : ∀ character ∈ characters, ¬ IsSyntax character) (isOpen : Bool) :
    scan isOpen characters = (Token.text characters).atoms := by
  have scanned := scan_literal plain isOpen []
  rwa [List.append_nil, scan, List.append_nil] at scanned

end QueryTemplate.Token

namespace QueryTemplate.Template

/-- The literal texts of a template hold no syntax. -/
theorem not_isSyntax_of_mem_tokens (template : Template) {characters : Text}
    (member : .text characters ∈ template.tokens) :
    ∀ character ∈ characters, ¬ Token.IsSyntax character := by
  intro character inside
  have atom : Token.text [character] ∈ template.tokens.flatMap Token.atoms :=
    List.mem_flatMap_of_mem member (List.mem_map_of_mem inside)
  rw [template.tokens_eq, Token.atoms_mergeText, Token.atoms_scan] at atom
  exact Token.not_isSyntax_of_mem_scan atom character (List.mem_singleton.mpr rfl)

/-- The template of a text without syntax is the text by itself. -/
theorem tokens_parse_of_plain {characters : Text}
    (plain : ∀ character ∈ characters, ¬ Token.IsSyntax character) :
    (parse characters).tokens = if characters = [] then [] else [.text characters] := by
  rw [(parse characters).tokens_eq, parse, Token.scan_eq_atoms plain]
  split
  case isTrue empty => rw [empty]; rfl
  case isFalse nonempty =>
    rw [← List.append_nil (Token.atoms _), Token.mergeText_atoms_append nonempty]
    rfl

end QueryTemplate.Template
