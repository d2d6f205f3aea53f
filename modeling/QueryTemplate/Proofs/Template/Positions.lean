import QueryTemplate.Proofs.Template.Blocks

/-! # The grammar of templates by position

What a character of a source becomes is decided by the character, the text before it and the text
after it: a closing brace ends a block when the text before leaves one open, an opening brace starts
one when it does not and a closing brace follows, a question mark takes its tag from the next
character, and what is left is literal text. The tokens of a template are those of its characters in
order, with adjacent literal characters joined.
-/
namespace QueryTemplate

namespace Tag

/-- The tag of a question mark that stands directly before the text. -/
def ofRest : Text → Tag
  | '#' :: _ => .identifier
  | 'a' :: _ => .list
  | 'd' :: _ => .integer
  | 'f' :: _ => .float
  | _ => .auto

theorem ofRest_cons (letter : Char) (rest : Text) :
    ofRest (letter :: rest) = (ofLetter? letter).getD .auto := by
  unfold ofRest
  split <;> simp_all [ofLetter?]

end Tag

namespace Token

/-- The tokens of a character between two texts, which are none or one. -/
def between (before : Text) (character : Char) (after : Text) : List Token :=
  if character = '?' then [.placeholder (Tag.ofRest after)]
  else if character = '{' then if ¬ LeavesOpen before ∧ '}' ∈ after then [.blockStart] else []
  else if character = '}' then if LeavesOpen before then [.blockEnd] else []
  else if before.getLast? = some '?' ∧ character ∈ ['#', 'a', 'd', 'f'] then []
  else [.text [character]]

/-- The tokens of the character at a position of the source. -/
def atPosition (source : Text) (position : Nat) : List Token :=
  match source[position]? with
  | some character => between (source.take position) character (source.drop (position + 1))
  | none => []

def ClosesBlock (source : Text) (position : Nat) : Prop :=
  source[position]? = some '}' ∧ LeavesOpen (source.take position)

instance (source : Text) : DecidablePred (ClosesBlock source) :=
  fun _ => inferInstanceAs (Decidable (_ ∧ _))

/-- The tokens of the characters of a text, which stands after another. -/
def following (before : Text) : Text → List Token
  | [] => []
  | character :: rest => between before character rest ++ following (before ++ [character]) rest

theorem leavesOpen_concat_open (before : Text) : LeavesOpen (before ++ ['{']) := by
  rw [← openAfter_false_eq_true_iff, openAfter_append]
  rfl

theorem not_leavesOpen_concat_close (before : Text) : ¬ LeavesOpen (before ++ ['}']) := by
  rw [← openAfter_false_eq_true_iff, openAfter_append]
  simp

theorem leavesOpen_concat_letter {character : Char} (opening : character ≠ '{')
    (closing : character ≠ '}') (before : Text) :
    LeavesOpen (before ++ [character]) ↔ LeavesOpen before := by
  rw [← openAfter_false_eq_true_iff, openAfter_append, openAfter_letter opening closing,
    openAfter_nil, openAfter_false_eq_true_iff]

theorem separate_concat (before : Text) (character : Char) (rest : Text) :
    Separate (before ++ [character]) rest ↔ (character = '?' → ¬ Tag.Leads rest) := by
  simp [Separate]

/-- A scan gives the tokens of each character. As long as a closing brace follows, the state of the
scan says whether the text before leaves a block open. -/
theorem scan_eq_following {isOpen : Bool} (before : Text) {rest : Text}
    (separate : Separate before rest)
    (state : '}' ∈ rest → (isOpen = true ↔ LeavesOpen before)) :
    scan isOpen rest = following before rest := by
  induction isOpen, rest using scan_induction generalizing before with
  | nil isOpen => rw [scan, following]
  | tagged isOpen mark tag after found induction =>
      obtain ⟨question, opening, closing⟩ := Tag.ne_of_ofLetter?_eq_some found
      have isTag : mark ∈ ['#', 'a', 'd', 'f'] := by
        rw [← Tag.isSome_ofLetter?_iff, found]
        rfl
      have taken : (before ++ ['?']).getLast? = some '?' ∧ mark ∈ ['#', 'a', 'd', 'f'] :=
        ⟨List.getLast?_concat, isTag⟩
      have markTokens : between (before ++ ['?']) mark after = [] := by
        simp only [between, question, opening, closing, if_pos taken, ↓reduceIte]
      rw [scan_question_letter found, following, following, markTokens,
        ← induction (before ++ ['?'] ++ [mark])]
      · simp [between, Tag.ofRest_cons, found]
      · exact (separate_concat _ mark after).mpr fun same => absurd same question
      · intro closes
        rw [leavesOpen_concat_letter opening closing,
          leavesOpen_concat_letter (by decide) (by decide)]
        exact state (by simp [closes])
  | untagged isOpen rest plain induction =>
      have auto : Tag.ofRest rest = .auto := by
        cases rest with
        | nil => rfl
        | cons mark after =>
            have none : Tag.ofLetter? mark = none := by simpa [Tag.leads_cons] using plain
            rw [Tag.ofRest_cons, none, Option.getD_none]
      rw [scan_question plain, following, ← induction (before ++ ['?'])]
      · simp [between, auto]
      · simp [separate_concat, plain]
      · intro closes
        rw [leavesOpen_concat_letter (by decide) (by decide)]
        exact state (by simp [closes])
  | opening rest closes induction =>
      have closedBefore : ¬ LeavesOpen before := by simpa using state (by simp [closes])
      rw [scan_open closes, following, ← induction (before ++ ['{'])]
      · simp [between, closedBefore, closes]
      · simp [separate_concat]
      · simp [leavesOpen_concat_open]
  | unclosed rest absent induction =>
      rw [scan_open_of_notMem absent, following, ← induction (before ++ ['{'])]
      · simp [between, absent]
      · simp [separate_concat]
      · exact fun closes => absurd closes absent
  | nested rest induction =>
      have dropped : ¬ (¬ LeavesOpen before ∧ '}' ∈ rest) := by
        rintro ⟨closedBefore, closes⟩
        exact closedBefore ((state (by simp [closes])).mp rfl)
      rw [scan_open_of_isOpen, following, ← induction (before ++ ['{'])]
      · simp [between, dropped]
      · simp [separate_concat]
      · simp [leavesOpen_concat_open]
  | closing rest induction =>
      have openBefore : LeavesOpen before := (state (by simp)).mp rfl
      rw [scan_close, following, ← induction (before ++ ['}'])]
      · simp [between, openBefore]
      · simp [separate_concat]
      · simp [not_leavesOpen_concat_close]
  | stray rest induction =>
      have closedBefore : ¬ LeavesOpen before := by simpa using state (by simp)
      rw [scan_close_of_not_isOpen, following, ← induction (before ++ ['}'])]
      · simp [between, closedBefore]
      · simp [separate_concat]
      · simp [not_leavesOpen_concat_close]
  | letter isOpen character rest question opening closing induction =>
      have notTag : ¬ (before.getLast? = some '?' ∧ character ∈ ['#', 'a', 'd', 'f']) := by
        rw [← Tag.isSome_ofLetter?_iff, ← Tag.leads_cons character rest]
        exact separate
      rw [scan_letter question opening closing, following,
        ← induction (before ++ [character])]
      · simp only [between, question, opening, closing, if_neg notTag, ↓reduceIte,
          List.singleton_append]
      · simp [separate_concat, question]
      · intro closes
        rw [leavesOpen_concat_letter opening closing]
        exact state (by simp [closes])

theorem following_eq_atPosition (before rest : Text) :
    following before rest =
      (List.range' before.length rest.length).flatMap (atPosition (before ++ rest)) := by
  induction rest generalizing before with
  | nil => rfl
  | cons character rest induction =>
      have here : atPosition (before ++ character :: rest) before.length =
          between before character rest := by
        simp [atPosition]
      rw [following, induction, List.length_cons, List.range'_succ, List.flatMap_cons, here]
      simp

theorem scan_eq_atPosition (source : Text) :
    scan false source = (List.range source.length).flatMap (atPosition source) := by
  rw [scan_eq_following [] (by simp [Separate]) (by simp [LeavesOpen]),
    following_eq_atPosition, List.range_eq_range']
  rfl

theorem count_blockEnd_atPosition (source : Text) (position : Nat) :
    (atPosition source position).count .blockEnd =
      if ClosesBlock source position then 1 else 0 := by
  cases found : source[position]? with
  | none => simp [atPosition, ClosesBlock, found]
  | some character =>
      by_cases closing : character = '}'
      · subst closing
        by_cases leaves : LeavesOpen (source.take position) <;>
          simp [atPosition, ClosesBlock, found, between, leaves]
      · simp only [atPosition, ClosesBlock, found, between, Option.some.injEq, closing, false_and,
          ↓reduceIte]
        split_ifs <;> simp

theorem count_flatMap_eq_countP {α : Type} {token : Token} {tokens : α → List Token}
    {test : α → Prop} [DecidablePred test]
    (single : ∀ item, (tokens item).count token = if test item then 1 else 0) (items : List α) :
    (items.flatMap tokens).count token = items.countP fun item => decide (test item) := by
  induction items with
  | nil => rfl
  | cons item rest induction =>
      rw [List.flatMap_cons, List.count_append, induction, single, List.countP_cons]
      simp [Nat.add_comm]

end Token

namespace Template

theorem blockCount_eq (template : Template) :
    template.blockCount =
      (List.range template.source.length).countP fun position =>
        decide (Token.ClosesBlock template.source position) := by
  have balanced := Token.count_blockStart_eq template.blocksClosed
  rw [Bool.toNat_false, Nat.add_zero] at balanced
  rw [blockCount, balanced, template.tokens_eq, List.count,
    Token.countP_mergeText fun _ => rfl, ← List.count, Token.scan_eq_atPosition,
    Token.count_flatMap_eq_countP (Token.count_blockEnd_atPosition template.source)]

/-- The tokens of a template are those of the positions of its source, in order, with each maximal
run of literal characters joined to one literal text. It has a placeholder for each question mark
and a block for each brace that closes one, and its blocks are closed and not nested. -/
theorem parse_eq_by_position (source : Text) :
    (parse source).tokens.flatMap Token.atoms =
        (List.range source.length).flatMap (Token.atPosition source) ∧
      (parse source).tokens.IsChain Token.Apart ∧
      .text [] ∉ (parse source).tokens ∧
      (parse source).placeholderCount = source.count '?' ∧
      (parse source).blockCount =
        (List.range source.length).countP (fun position =>
          decide (Token.ClosesBlock source position)) ∧
      Token.BlocksClosed false (parse source).tokens := by
  refine ⟨?_, Token.isChain_mergeText _, (parse source).text_nil_notMem_tokens,
    (parse source).placeholderCount_eq, (parse source).blockCount_eq,
    (parse source).blocksClosed⟩
  calc
    (parse source).tokens.flatMap Token.atoms
        = (Token.scan false source).flatMap Token.atoms := Token.atoms_mergeText _
    _ = Token.scan false source := Token.atoms_scan false source
    _ = (List.range source.length).flatMap (Token.atPosition source) :=
        Token.scan_eq_atPosition source

end Template
end QueryTemplate
