import QueryTemplate.Proofs.Template.Atoms
import QueryTemplate.Proofs.Template.Scan

/-! # Blocks of a template

In the tokens of a template every block is closed and none is opened within another. A template has
a placeholder for each question mark of its source, and none of its literal texts is empty.
-/
namespace QueryTemplate

namespace Token

/-- Every block is closed, and none is opened within another. `isOpen` says whether a block is open
at the start of the tokens. -/
def BlocksClosed : Bool → List Token → Prop
  | isOpen, [] => isOpen = false
  | isOpen, .blockStart :: rest => isOpen = false ∧ BlocksClosed true rest
  | isOpen, .blockEnd :: rest => isOpen = true ∧ BlocksClosed false rest
  | isOpen, .text _ :: rest => BlocksClosed isOpen rest
  | isOpen, .placeholder _ :: rest => BlocksClosed isOpen rest

theorem blocksClosed_texts (characters : Text) (isOpen : Bool) (rest : List Token) :
    BlocksClosed isOpen ((Token.text characters).atoms ++ rest) ↔ BlocksClosed isOpen rest := by
  induction characters with
  | nil => rfl
  | cons character others induction => exact induction

theorem blocksClosed_atoms (isOpen : Bool) (tokens : List Token) :
    BlocksClosed isOpen (tokens.flatMap atoms) ↔ BlocksClosed isOpen tokens := by
  induction tokens generalizing isOpen with
  | nil => rfl
  | cons token rest induction =>
      rw [List.flatMap_cons]
      cases token with
      | text characters => rw [blocksClosed_texts, induction, BlocksClosed]
      | placeholder tag => exact induction isOpen
      | blockStart => exact and_congr_right fun _ => induction true
      | blockEnd => exact and_congr_right fun _ => induction false

/-- A scan closes the blocks that it opens, and the one before the text if there is one. -/
theorem blocksClosed_scan {isOpen : Bool} {text : Text} (closes : isOpen = true → '}' ∈ text) :
    BlocksClosed isOpen (scan isOpen text) := by
  induction isOpen, text using scan_induction with
  | nil isOpen =>
      rw [scan, BlocksClosed, ← Bool.not_eq_true]
      exact fun isOpen => absurd (closes isOpen) List.not_mem_nil
  | tagged isOpen mark tag after found induction =>
      obtain ⟨-, -, closing⟩ := Tag.ne_of_ofLetter?_eq_some found
      rw [scan_question_letter found]
      exact induction fun opened => by simpa [Ne.symm closing] using closes opened
  | untagged isOpen rest plain induction =>
      rw [scan_question plain]
      exact induction fun opened => by simpa using closes opened
  | opening rest closesLater induction =>
      rw [scan_open closesLater]
      exact ⟨rfl, induction fun _ => closesLater⟩
  | unclosed rest absent induction =>
      rw [scan_open_of_notMem absent]
      exact induction (absurd · Bool.false_ne_true)
  | nested rest induction =>
      rw [scan_open_of_isOpen]
      exact induction fun opened => by simpa using closes opened
  | closing rest induction =>
      rw [scan_close]
      exact ⟨rfl, induction (absurd · Bool.false_ne_true)⟩
  | stray rest induction =>
      rw [scan_close_of_not_isOpen]
      exact induction (absurd · Bool.false_ne_true)
  | letter isOpen character rest question opening closing induction =>
      rw [scan_letter question opening closing]
      exact induction fun opened => by simpa [Ne.symm closing] using closes opened

theorem blocksClosed_scan_false (text : Text) : BlocksClosed false (scan false text) :=
  blocksClosed_scan (absurd · Bool.false_ne_true)

theorem atoms_scan (isOpen : Bool) (text : Text) :
    (scan isOpen text).flatMap atoms = scan isOpen text := by
  induction isOpen, text using scan_induction with
  | nil isOpen => simp [scan]
  | tagged isOpen mark tag after found induction =>
      simp [scan_question_letter found, atoms, induction]
  | untagged isOpen rest plain induction => simp [scan_question plain, atoms, induction]
  | opening rest closes induction => simp [scan_open closes, atoms, induction]
  | unclosed rest absent induction => rwa [scan_open_of_notMem absent]
  | nested rest induction => rwa [scan_open_of_isOpen]
  | closing rest induction => simp [atoms, induction]
  | stray rest induction => rwa [scan_close_of_not_isOpen]
  | letter isOpen character rest question opening closing induction =>
      simp [scan_letter question opening closing, atoms, induction]

theorem countP_isPlaceholder_scan (isOpen : Bool) (text : Text) :
    (scan isOpen text).countP isPlaceholder = text.count '?' := by
  induction isOpen, text using scan_induction with
  | nil isOpen => rfl
  | tagged isOpen mark tag after found induction =>
      obtain ⟨question, -, -⟩ := Tag.ne_of_ofLetter?_eq_some found
      simp [scan_question_letter found, List.countP_cons, isPlaceholder, induction, question]
  | untagged isOpen rest plain induction =>
      simp [scan_question plain, List.countP_cons, isPlaceholder, induction]
  | opening rest closes induction => simpa [scan_open closes, isPlaceholder] using induction
  | unclosed rest absent induction => simpa [scan_open_of_notMem absent] using induction
  | nested rest induction => simpa [scan_open_of_isOpen] using induction
  | closing rest induction => simpa [scan_close, isPlaceholder] using induction
  | stray rest induction => simpa [scan_close_of_not_isOpen] using induction
  | letter isOpen character rest question opening closing induction =>
      simpa [scan_letter question opening closing, isPlaceholder, question] using induction

/-- Closed blocks have as many starts as ends. -/
theorem count_blockStart_eq {isOpen : Bool} {tokens : List Token}
    (closed : BlocksClosed isOpen tokens) :
    tokens.count .blockStart + isOpen.toNat = tokens.count .blockEnd := by
  induction tokens generalizing isOpen with
  | nil =>
      have atEnd : isOpen = false := closed
      simp [atEnd]
  | cons token rest induction =>
      cases token with
      | text characters => simpa using induction closed
      | placeholder tag => simpa using induction closed
      | blockStart =>
          obtain ⟨rfl, restClosed⟩ := closed
          simpa using induction restClosed
      | blockEnd =>
          obtain ⟨rfl, restClosed⟩ := closed
          simpa using induction restClosed

end Token

namespace Template

theorem blocksClosed (template : Template) : Token.BlocksClosed false template.tokens := by
  rw [template.tokens_eq, ← Token.blocksClosed_atoms, Token.atoms_mergeText,
    Token.blocksClosed_atoms]
  exact Token.blocksClosed_scan_false _

theorem text_nil_notMem_tokens (template : Template) : .text [] ∉ template.tokens := by
  rw [template.tokens_eq]
  apply Token.text_nil_notMem_mergeText
  rw [← Token.atoms_scan]
  exact Token.text_nil_notMem_atoms _

theorem placeholderCount_eq (template : Template) :
    template.placeholderCount = template.source.count '?' := by
  rw [placeholderCount, template.tokens_eq, Token.countP_mergeText fun _ => rfl,
    Token.countP_isPlaceholder_scan]

end Template
end QueryTemplate
