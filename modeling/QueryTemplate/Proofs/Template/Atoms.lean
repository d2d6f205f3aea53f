import QueryTemplate.Template.Basic
import Mathlib.Data.List.Chain

/-! # Tokens with single literal characters

The atoms of a token are the token itself, or the characters of a literal text, each as a text of
its own. Merging keeps the atoms of a sequence of tokens, so whatever is determined by the atoms is
the same before and after it. It leaves no two literal texts side by side.
-/
namespace QueryTemplate.Token

def isText : Token → Bool
  | .text _ => true
  | _ => false

def tag? : Token → Option Tag
  | .placeholder tag => some tag
  | _ => none

/-- The token, with every character of a literal text by itself. -/
def atoms : Token → List Token
  | .text characters => characters.map fun character => .text [character]
  | token => [token]

/-- The two tokens are not both literal texts. -/
def Apart (first second : Token) : Prop := ¬ (first.isText = true ∧ second.isText = true)

instance (first second : Token) : Decidable (Apart first second) :=
  inferInstanceAs (Decidable (¬ _))

/-- The tokens with a literal text in front, joined to one that already stands there. -/
def joinText (first : Text) : List Token → List Token
  | .text second :: others => .text (first ++ second) :: others
  | others => .text first :: others

/-- Induction along tokens that tells literal texts from all other tokens. -/
@[elab_as_elim]
theorem text_induction {motive : List Token → Prop} (nil : motive [])
    (text : ∀ characters rest, motive rest → motive (.text characters :: rest))
    (other : ∀ token rest, token.isText = false → motive rest → motive (token :: rest))
    (tokens : List Token) : motive tokens := by
  induction tokens with
  | nil => exact nil
  | cons token rest induction =>
      cases token with
      | text characters => exact text characters rest induction
      | _ => exact other _ rest rfl induction

section Other

variable {token : Token} (notText : token.isText = false)
include notText

theorem atoms_of_isText_eq_false : token.atoms = [token] := by
  cases token with
  | text characters => exact absurd notText.symm Bool.false_ne_true
  | _ => rfl

theorem joinText_of_isText_eq_false (characters : Text) (rest : List Token) :
    joinText characters (token :: rest) = .text characters :: token :: rest := by
  cases token with
  | text second => exact absurd notText.symm Bool.false_ne_true
  | _ => rfl

theorem mergeText_of_isText_eq_false (rest : List Token) :
    mergeText (token :: rest) = token :: mergeText rest := by
  cases token with
  | text characters => exact absurd notText.symm Bool.false_ne_true
  | _ => rfl

theorem apart_of_isText_eq_false (first : Token) : Apart first token :=
  fun texts => Bool.false_ne_true (notText.symm.trans texts.2)

end Other

theorem mergeText_text (characters : Text) (rest : List Token) :
    mergeText (.text characters :: rest) = joinText characters (mergeText rest) := by
  rw [mergeText]
  cases mergeText rest with
  | nil => rfl
  | cons token others => cases token <;> rfl

@[simp] theorem atoms_joinText (characters : Text) (tokens : List Token) :
    (joinText characters tokens).flatMap atoms =
      (Token.text characters).atoms ++ tokens.flatMap atoms := by
  induction tokens using text_induction with
  | nil => rfl
  | text second others _ => simp [joinText, atoms]
  | other token others notText _ => rw [joinText_of_isText_eq_false notText, List.flatMap_cons]

@[simp] theorem atoms_mergeText (tokens : List Token) :
    (mergeText tokens).flatMap atoms = tokens.flatMap atoms := by
  induction tokens using text_induction with
  | nil => rfl
  | text characters rest induction =>
      rw [mergeText_text, atoms_joinText, induction, List.flatMap_cons]
  | other token rest notText induction =>
      rw [mergeText_of_isText_eq_false notText, List.flatMap_cons, induction, List.flatMap_cons]

theorem isChain_joinText (characters : Text) {tokens : List Token}
    (chain : tokens.IsChain Apart) : (joinText characters tokens).IsChain Apart := by
  induction tokens using text_induction with
  | nil => exact List.isChain_singleton _
  | text second others _ =>
      rw [List.isChain_cons] at chain
      exact List.isChain_cons.mpr chain
  | other token others notText _ =>
      rw [joinText_of_isText_eq_false notText]
      exact List.isChain_cons_cons.mpr ⟨apart_of_isText_eq_false notText _, chain⟩

/-- Merging leaves no two literal texts side by side. -/
theorem isChain_mergeText (tokens : List Token) : (mergeText tokens).IsChain Apart := by
  induction tokens using text_induction with
  | nil => exact List.isChain_nil
  | text characters rest induction =>
      rw [mergeText_text]
      exact isChain_joinText characters induction
  | other token rest notText induction =>
      rw [mergeText_of_isText_eq_false notText]
      refine List.isChain_cons.mpr ⟨?_, induction⟩
      intro next _ texts
      exact Bool.false_ne_true (notText.symm.trans texts.1)

theorem text_nil_notMem_joinText {characters : Text} {tokens : List Token}
    (nonempty : characters ≠ []) (others : .text [] ∉ tokens) :
    .text [] ∉ joinText characters tokens := by
  induction tokens using text_induction with
  | nil => simp [joinText, Ne.symm nonempty]
  | text second rest _ =>
      rw [List.mem_cons, not_or] at others
      rw [joinText, List.mem_cons, not_or]
      exact ⟨by simp [nonempty], others.2⟩
  | other token rest notText _ =>
      rw [joinText_of_isText_eq_false notText, List.mem_cons, not_or]
      exact ⟨by simp [Ne.symm nonempty], others⟩

theorem text_nil_notMem_mergeText {tokens : List Token} (nonempty : .text [] ∉ tokens) :
    .text [] ∉ mergeText tokens := by
  induction tokens using text_induction with
  | nil => simp [mergeText]
  | text characters rest induction =>
      rw [List.mem_cons, not_or] at nonempty
      rw [mergeText_text]
      refine text_nil_notMem_joinText ?_ (induction nonempty.2)
      rintro rfl
      exact nonempty.1 rfl
  | other token rest notText induction =>
      rw [List.mem_cons, not_or] at nonempty
      rw [mergeText_of_isText_eq_false notText, List.mem_cons, not_or]
      exact ⟨nonempty.1, induction nonempty.2⟩

theorem joinText_joinText (first second : Text) (tokens : List Token) :
    joinText first (joinText second tokens) = joinText (first ++ second) tokens := by
  induction tokens using text_induction with
  | nil => rfl
  | text third others _ => simp [joinText]
  | other token others notText _ =>
      rw [joinText_of_isText_eq_false notText, joinText_of_isText_eq_false notText, joinText]

/-- Merging joins the characters of a literal text again, and what it is then joined to. -/
theorem mergeText_atoms_append {characters : Text} (nonempty : characters ≠ [])
    (rest : List Token) :
    mergeText ((Token.text characters).atoms ++ rest) = joinText characters (mergeText rest) := by
  induction characters with
  | nil => exact absurd rfl nonempty
  | cons character others induction =>
      rw [atoms, List.map_cons, List.cons_append, mergeText_text]
      cases others with
      | nil => rfl
      | cons second more =>
          have joined := induction (List.cons_ne_nil second more)
          rw [atoms] at joined
          rw [joined, joinText_joinText, List.singleton_append]

/-- Tokens may as well be taken apart before they are merged, if no literal text is empty. -/
theorem mergeText_flatMap_atoms {tokens : List Token} (nonempty : .text [] ∉ tokens) :
    mergeText (tokens.flatMap atoms) = mergeText tokens := by
  induction tokens using text_induction with
  | nil => rfl
  | text characters rest induction =>
      rw [List.mem_cons, not_or] at nonempty
      rw [List.flatMap_cons, mergeText_atoms_append fun empty => nonempty.1 (by rw [empty]),
        induction nonempty.2, mergeText_text]
  | other token rest notText induction =>
      rw [List.mem_cons, not_or] at nonempty
      rw [List.flatMap_cons, atoms_of_isText_eq_false notText, List.singleton_append,
        mergeText_of_isText_eq_false notText, induction nonempty.2,
        mergeText_of_isText_eq_false notText]

theorem joinText_of_isChain {characters : Text} {tokens : List Token}
    (chain : (Token.text characters :: tokens).IsChain Apart) :
    joinText characters tokens = .text characters :: tokens := by
  induction tokens using text_induction with
  | nil => rfl
  | text second others _ => exact absurd ⟨rfl, rfl⟩ (List.isChain_cons_cons.mp chain).1
  | other token others notText _ => exact joinText_of_isText_eq_false notText characters others

/-- Tokens without two literal texts side by side are merged already. -/
theorem mergeText_of_isChain {tokens : List Token} (chain : tokens.IsChain Apart) :
    mergeText tokens = tokens := by
  induction tokens using text_induction with
  | nil => rfl
  | text characters rest induction =>
      rw [mergeText_text, induction chain.tail, joinText_of_isChain chain]
  | other token rest notText induction =>
      rw [mergeText_of_isText_eq_false notText, induction chain.tail]

theorem text_nil_notMem_atoms (tokens : List Token) : .text [] ∉ tokens.flatMap atoms := by
  rw [List.mem_flatMap]
  rintro ⟨token, -, member⟩
  cases token <;> simp [atoms] at member

/-- Tokens other than literal texts are the same among the atoms, in the same order. -/
theorem filterMap_atoms {Value : Type} {select : Token → Option Value}
    (ignored : ∀ characters, select (.text characters) = none) (tokens : List Token) :
    (tokens.flatMap atoms).filterMap select = tokens.filterMap select := by
  induction tokens using text_induction with
  | nil => rfl
  | text characters rest induction =>
      have none : (Token.text characters).atoms.filterMap select = [] := by
        simp [atoms, ignored]
      rw [List.flatMap_cons, List.filterMap_append, none, List.nil_append, induction,
        List.filterMap_cons_none (ignored characters)]
  | other token rest notText induction =>
      rw [List.flatMap_cons, atoms_of_isText_eq_false notText, List.filterMap_append, induction,
        ← List.filterMap_append, List.singleton_append]

/-- Merging keeps the tokens of any other form, in the same order. -/
theorem filterMap_mergeText {Value : Type} {select : Token → Option Value}
    (ignored : ∀ characters, select (.text characters) = none) (tokens : List Token) :
    (mergeText tokens).filterMap select = tokens.filterMap select := by
  rw [← filterMap_atoms ignored, atoms_mergeText, filterMap_atoms ignored]

theorem countP_atoms {test : Token → Bool} (ignored : ∀ characters, test (.text characters) = false)
    (tokens : List Token) : (tokens.flatMap atoms).countP test = tokens.countP test := by
  have unselected : ∀ characters, Option.guard test (.text characters) = none := by
    simp [ignored]
  rw [List.countP_eq_length_filter, ← List.filterMap_eq_filter, filterMap_atoms unselected,
    List.filterMap_eq_filter, ← List.countP_eq_length_filter]

theorem countP_mergeText {test : Token → Bool}
    (ignored : ∀ characters, test (.text characters) = false) (tokens : List Token) :
    (mergeText tokens).countP test = tokens.countP test := by
  rw [← countP_atoms ignored, atoms_mergeText, countP_atoms ignored]

end QueryTemplate.Token
