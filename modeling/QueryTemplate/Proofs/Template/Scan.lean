import QueryTemplate.Template.Basic
import Mathlib.Data.List.Basic

/-! # Scanning two texts one after the other

What a scan makes of a text depends on the text after it in two ways: a question mark at the end
takes a tag letter, and a block that is still open needs a closing brace. Where neither happens, the
tokens of two texts in a row are those of the first and then those of the second.
-/
namespace QueryTemplate

namespace Tag

/-- The letters that stand for tags. -/
theorem isSome_ofLetter?_iff (letter : Char) :
    (ofLetter? letter).isSome = true ↔ letter ∈ ['#', 'a', 'd', 'f'] := by
  unfold ofLetter?
  split_ifs <;> simp_all

/-- A question mark before the text would take its first letter as a tag. -/
def Leads (text : Text) : Prop := ∃ letter ∈ text.head?, (ofLetter? letter).isSome

instance (text : Text) : Decidable (Leads text) :=
  decidable_of_iff (text.head?.any fun letter => (ofLetter? letter).isSome) (by
    cases text <;> simp [Leads])

theorem leads_cons (letter : Char) (rest : Text) :
    Leads (letter :: rest) ↔ (ofLetter? letter).isSome := by
  simp [Leads]

theorem leads_append_of_ne_nil {first : Text} (nonempty : first ≠ []) (second : Text) :
    Leads (first ++ second) ↔ Leads first := by
  cases first with
  | nil => exact absurd rfl nonempty
  | cons letter rest => simp [leads_cons]

theorem ne_of_ofLetter?_eq_some {letter : Char} {tag : Tag} (found : ofLetter? letter = some tag) :
    letter ≠ '?' ∧ letter ≠ '{' ∧ letter ≠ '}' := by
  refine ⟨?_, ?_, ?_⟩ <;> rintro rfl <;> simp [ofLetter?] at found

end Tag

namespace Token

/-- The first text does not end in a question mark that would take a tag letter from the second. -/
def Separate (first second : Text) : Prop :=
  ¬ (first.getLast? = some '?' ∧ Tag.Leads second)

instance (first second : Text) : Decidable (Separate first second) :=
  inferInstanceAs (Decidable (¬ _))

/-- An opening brace of the text has no closing one after it. -/
def LeavesOpen (text : Text) : Prop :=
  ∃ before after, text = before ++ '{' :: after ∧ '}' ∉ after

/-- The state of braces after a text: a block is open when the last brace is an opening one, or
when there is no brace and one was open before. -/
def openAfter (isOpen : Bool) (text : Text) : Bool :=
  text.foldl (fun state character =>
    if character = '{' then true else if character = '}' then false else state) isOpen

theorem scan_question_letter {letter : Char} {tag : Tag} (found : Tag.ofLetter? letter = some tag)
    (isOpen : Bool) (after : Text) :
    scan isOpen ('?' :: letter :: after) = .placeholder tag :: scan isOpen after := by
  simp [scan, found]

theorem scan_question {rest : Text} (plain : ¬ Tag.Leads rest) (isOpen : Bool) :
    scan isOpen ('?' :: rest) = .placeholder .auto :: scan isOpen rest := by
  cases rest with
  | nil => simp [scan]
  | cons letter after =>
      have none : Tag.ofLetter? letter = none := by simpa [Tag.leads_cons] using plain
      simp [scan, none]

theorem scan_open {rest : Text} (closes : '}' ∈ rest) :
    scan false ('{' :: rest) = .blockStart :: scan true rest := by
  rw [scan.eq_def]
  simp [closes]

@[simp] theorem scan_open_of_isOpen (rest : Text) : scan true ('{' :: rest) = scan true rest := by
  rw [scan.eq_def]
  simp

theorem scan_open_of_notMem {rest : Text} (unclosed : '}' ∉ rest) (isOpen : Bool) :
    scan isOpen ('{' :: rest) = scan isOpen rest := by
  rw [scan.eq_def]
  simp [unclosed]

@[simp] theorem scan_close (rest : Text) :
    scan true ('}' :: rest) = .blockEnd :: scan false rest := by
  rw [scan.eq_def]
  simp

@[simp] theorem scan_close_of_not_isOpen (rest : Text) :
    scan false ('}' :: rest) = scan false rest := by
  rw [scan.eq_def]
  simp

theorem scan_letter {character : Char} (question : character ≠ '?') (opening : character ≠ '{')
    (closing : character ≠ '}') (isOpen : Bool) (rest : Text) :
    scan isOpen (character :: rest) = .text [character] :: scan isOpen rest := by
  rw [scan.eq_def]
  simp [question, opening, closing]

/-- Induction along a scan: one case for each way in which the start of a text is read. -/
@[elab_as_elim]
theorem scan_induction {motive : Bool → Text → Prop}
    (nil : ∀ isOpen, motive isOpen [])
    (tagged : ∀ isOpen letter tag after, Tag.ofLetter? letter = some tag →
      motive isOpen after → motive isOpen ('?' :: letter :: after))
    (untagged : ∀ isOpen rest, ¬ Tag.Leads rest → motive isOpen rest →
      motive isOpen ('?' :: rest))
    (opening : ∀ rest, '}' ∈ rest → motive true rest → motive false ('{' :: rest))
    (unclosed : ∀ rest, '}' ∉ rest → motive false rest → motive false ('{' :: rest))
    (nested : ∀ rest, motive true rest → motive true ('{' :: rest))
    (closing : ∀ rest, motive false rest → motive true ('}' :: rest))
    (stray : ∀ rest, motive false rest → motive false ('}' :: rest))
    (letter : ∀ isOpen character rest, character ≠ '?' → character ≠ '{' → character ≠ '}' →
      motive isOpen rest → motive isOpen (character :: rest))
    (isOpen : Bool) (text : Text) : motive isOpen text := by
  induction isOpen, text using scan.induct with
  | case1 isOpen => exact nil isOpen
  | case2 isOpen => exact untagged isOpen [] (by simp [Tag.Leads]) (nil isOpen)
  | case3 isOpen mark after tag found induction =>
      exact tagged isOpen mark tag after found induction
  | case4 isOpen mark after plain induction =>
      exact untagged isOpen _ (by simp [Tag.leads_cons, plain]) induction
  | case5 isOpen rest opens _ induction =>
      obtain ⟨rfl, closes⟩ := opens
      exact opening rest closes induction
  | case6 isOpen rest dropped _ induction =>
      cases isOpen with
      | false => exact unclosed rest (by simpa using dropped) induction
      | true => exact nested rest induction
  | case7 rest _ _ induction => exact closing rest induction
  | case8 isOpen rest closed _ _ induction =>
      rw [Bool.not_eq_true] at closed
      subst closed
      exact stray rest induction
  | case9 isOpen character rest question brace closer induction =>
      exact letter isOpen character rest question brace closer induction

/-- Whether a block is open matters only to a text with a closing brace. -/
theorem scan_eq_of_notMem {text : Text} (unclosed : '}' ∉ text) (isOpen : Bool) :
    scan isOpen text = scan false text := by
  induction isOpen, text using scan_induction with
  | nil isOpen => simp [scan]
  | tagged isOpen mark tag after found induction =>
      simp only [List.mem_cons, not_or] at unclosed
      rw [scan_question_letter found, scan_question_letter found, induction unclosed.2.2]
  | untagged isOpen rest plain induction =>
      simp only [List.mem_cons, not_or] at unclosed
      rw [scan_question plain, scan_question plain, induction unclosed.2]
  | opening rest closes induction => simp [closes] at unclosed
  | unclosed rest absent induction => rfl
  | nested rest induction =>
      simp only [List.mem_cons, not_or] at unclosed
      rw [scan_open_of_notMem unclosed.2, scan_open_of_notMem unclosed.2, induction unclosed.2]
  | closing rest induction => simp at unclosed
  | stray rest induction => rfl
  | letter isOpen character rest question brace closer induction =>
      simp only [List.mem_cons, not_or] at unclosed
      rw [scan_letter question brace closer, scan_letter question brace closer,
        induction unclosed.2]

@[simp] theorem openAfter_nil (isOpen : Bool) : openAfter isOpen [] = isOpen := rfl

@[simp] theorem openAfter_open (isOpen : Bool) (rest : Text) :
    openAfter isOpen ('{' :: rest) = openAfter true rest := rfl

@[simp] theorem openAfter_close (isOpen : Bool) (rest : Text) :
    openAfter isOpen ('}' :: rest) = openAfter false rest := rfl

theorem openAfter_letter {character : Char} (opening : character ≠ '{') (closing : character ≠ '}')
    (isOpen : Bool) (rest : Text) :
    openAfter isOpen (character :: rest) = openAfter isOpen rest := by
  simp [openAfter, opening, closing]

theorem openAfter_append (isOpen : Bool) (first second : Text) :
    openAfter isOpen (first ++ second) = openAfter (openAfter isOpen first) second :=
  List.foldl_append

theorem leavesOpen_cons (character : Char) (rest : Text) :
    LeavesOpen (character :: rest) ↔ (character = '{' ∧ '}' ∉ rest) ∨ LeavesOpen rest := by
  constructor
  · rintro ⟨before, after, split, unclosed⟩
    cases before with
    | nil =>
        obtain ⟨opening, rfl⟩ := List.cons.inj split
        exact Or.inl ⟨opening, unclosed⟩
    | cons head before => exact Or.inr ⟨before, after, (List.cons.inj split).2, unclosed⟩
  · rintro (⟨rfl, unclosed⟩ | ⟨before, after, rfl, unclosed⟩)
    · exact ⟨[], rest, rfl, unclosed⟩
    · exact ⟨character :: before, after, rfl, unclosed⟩

/-- A block is open after a text when the text leaves one open, or one was open before and the text
does not close it. -/
theorem openAfter_eq_true_iff (isOpen : Bool) (text : Text) :
    openAfter isOpen text = true ↔ LeavesOpen text ∨ (isOpen = true ∧ '}' ∉ text) := by
  induction text generalizing isOpen with
  | nil => simp [LeavesOpen]
  | cons character rest induction =>
      rw [leavesOpen_cons]
      by_cases opening : character = '{'
      · subst opening
        rw [openAfter_open, induction]
        simp +contextual [or_comm]
      by_cases closing : character = '}'
      · subst closing
        rw [openAfter_close, induction]
        simp
      · rw [openAfter_letter opening closing, induction]
        simp [opening, Ne.symm closing]

theorem openAfter_false_eq_true_iff (text : Text) :
    openAfter false text = true ↔ LeavesOpen text := by
  simp [openAfter_eq_true_iff]

instance (text : Text) : Decidable (LeavesOpen text) :=
  decidable_of_iff _ (openAfter_false_eq_true_iff text)

theorem separate_of_append {first second third : Text}
    (separate : Separate (first ++ second) third) : Separate second third := by
  rintro ⟨last, leads⟩
  refine separate ⟨?_, leads⟩
  rw [List.getLast?_append, last, Option.some_or]

theorem separate_of_cons {character : Char} {rest second : Text}
    (separate : Separate (character :: rest) second) : Separate rest second := by
  rw [← List.singleton_append] at separate
  exact separate_of_append separate

/-- Two texts in a row are scanned one after the other, if no question mark takes a tag letter
across the border and no opening brace finds its closing one there. The second is read from the
state that the first leaves. -/
theorem scan_append {isOpen : Bool} {first second : Text} (separate : Separate first second)
    (settled : ¬ LeavesOpen first ∨ '}' ∉ second) :
    scan isOpen (first ++ second) =
      scan isOpen first ++ scan (openAfter isOpen first) second := by
  induction isOpen, first using scan_induction with
  | nil isOpen => simp [scan]
  | tagged isOpen mark tag after found induction =>
      obtain ⟨-, opening, closing⟩ := Tag.ne_of_ofLetter?_eq_some found
      rw [openAfter_letter (by decide) (by decide), openAfter_letter opening closing,
        List.cons_append, List.cons_append, scan_question_letter found,
        scan_question_letter found, List.cons_append, induction]
      · exact separate_of_cons (separate_of_cons separate)
      · simpa [leavesOpen_cons, opening] using settled
  | untagged isOpen rest plain induction =>
      have plainAppend : ¬ Tag.Leads (rest ++ second) := by
        cases rest with
        | nil => exact fun leads => separate ⟨rfl, leads⟩
        | cons mark after => rwa [Tag.leads_append_of_ne_nil (by simp)]
      rw [openAfter_letter (by decide) (by decide), List.cons_append, scan_question plainAppend,
        scan_question plain, List.cons_append, induction (separate_of_cons separate)]
      simpa [leavesOpen_cons] using settled
  | opening rest closes induction =>
      rw [openAfter_open, List.cons_append, scan_open (by simp [closes]), scan_open closes,
        List.cons_append, induction (separate_of_cons separate)]
      simpa [leavesOpen_cons, closes] using settled
  | unclosed rest absent induction =>
      -- The block stays open to the end, so the second text has no closing brace for it.
      have secondUnclosed : '}' ∉ second := by simpa [leavesOpen_cons, absent] using settled
      rw [List.cons_append, scan_open_of_notMem (by simp [absent, secondUnclosed]),
        scan_open_of_notMem absent, induction (separate_of_cons separate) (Or.inr secondUnclosed),
        scan_eq_of_notMem secondUnclosed, scan_eq_of_notMem secondUnclosed (openAfter _ _)]
  | nested rest induction =>
      rw [openAfter_open, List.cons_append, scan_open_of_isOpen, scan_open_of_isOpen,
        induction (separate_of_cons separate)]
      exact settled.imp_left fun closed leaves => closed ((leavesOpen_cons _ _).mpr (Or.inr leaves))
  | closing rest induction =>
      rw [openAfter_close, List.cons_append, scan_close, scan_close, List.cons_append,
        induction (separate_of_cons separate)]
      simpa [leavesOpen_cons] using settled
  | stray rest induction =>
      rw [openAfter_close, List.cons_append, scan_close_of_not_isOpen, scan_close_of_not_isOpen,
        induction (separate_of_cons separate)]
      simpa [leavesOpen_cons] using settled
  | letter isOpen character rest question opening closing induction =>
      rw [openAfter_letter opening closing, List.cons_append, scan_letter question opening closing,
        scan_letter question opening closing, List.cons_append,
        induction (separate_of_cons separate)]
      simpa [leavesOpen_cons, opening] using settled

theorem not_leavesOpen_of_notMem {text : Text} (absent : '{' ∉ text) : ¬ LeavesOpen text := by
  rintro ⟨before, after, rfl, -⟩
  simp at absent

/-- A text after one that leaves no block open is scanned as if it stood alone. -/
theorem scan_append_of_not_leavesOpen {first second : Text} (separate : Separate first second)
    (settled : ¬ LeavesOpen first) :
    scan false (first ++ second) = scan false first ++ scan false second := by
  have closed : openAfter false first = false := by
    rw [← Bool.not_eq_true, openAfter_false_eq_true_iff]
    exact settled
  rw [scan_append separate (Or.inl settled), closed]

theorem blockEnd_notMem_scan {text : Text} (unclosed : '}' ∉ text) (isOpen : Bool) :
    .blockEnd ∉ scan isOpen text := by
  induction isOpen, text using scan_induction with
  | nil isOpen => simp [scan]
  | tagged isOpen mark tag after found induction =>
      simp only [List.mem_cons, not_or] at unclosed
      simp [scan_question_letter found, induction unclosed.2.2]
  | untagged isOpen rest plain induction =>
      simp only [List.mem_cons, not_or] at unclosed
      simp [scan_question plain, induction unclosed.2]
  | opening rest closes induction => simp [closes] at unclosed
  | unclosed rest absent induction => simpa [scan_open_of_notMem absent] using induction absent
  | nested rest induction =>
      simp only [List.mem_cons, not_or] at unclosed
      simpa using induction unclosed.2
  | closing rest induction => simp at unclosed
  | stray rest induction => simp at unclosed
  | letter isOpen character rest question opening closing induction =>
      simp only [List.mem_cons, not_or] at unclosed
      simp [scan_letter question opening closing, induction unclosed.2]

end Token
end QueryTemplate
