import QueryTemplate.Decimal.Numeral
import QueryTemplate.Proofs.Decimal.Grammar
import QueryTemplate.Proofs.Text.Ends

/-! # Reading integers

A sign and digits are read to the last digit. The integer that a text starts with is the one its
longest start of signed digits denotes, and zero when no start of it is of this form.
-/
namespace QueryTemplate.Decimal

open Text (LongestStart)

theorem exists_sign (text : Text) :
    ∃ sign, IsSign sign (readSign text).1 ∧ text = sign ++ (readSign text).2 := by
  unfold readSign
  split
  case h_1 => exact ⟨['-'], .minus, rfl⟩
  case h_2 => exact ⟨['+'], .plus, rfl⟩
  case h_3 => exact ⟨[], .absent, rfl⟩

theorem readSign_append {sign text : Text} {negative : Bool} (isSign : IsSign sign negative)
    (unsigned : ∀ character ∈ text.head?, character ≠ '+' ∧ character ≠ '-') :
    readSign (sign ++ text) = (negative, text) := by
  cases isSign with
  | absent =>
      rw [List.nil_append]
      unfold readSign
      split
      case h_1 => exact absurd rfl (unsigned '-' rfl).2
      case h_2 => exact absurd rfl (unsigned '+' rfl).1
      case h_3 => rfl
  | plus => rfl
  | minus => rfl

theorem not_sign_of_isDigit {digit : Char} (isDigit : digit.isDigit = true) :
    digit ≠ '+' ∧ digit ≠ '-' := by
  constructor <;> (rintro rfl; simp at isDigit)

theorem append_readDigits (text : Text) : (readDigits text).1 ++ (readDigits text).2 = text :=
  List.takeWhile_append_dropWhile

theorem isDigit_of_mem_readDigits {text : Text} {character : Char}
    (member : character ∈ (readDigits text).1) : character.isDigit = true :=
  List.mem_takeWhile_imp member

theorem readDigits_append {digits : Text} (all : ∀ character ∈ digits, character.isDigit = true)
    (rest : Text) :
    readDigits (digits ++ rest) = (digits ++ (readDigits rest).1, (readDigits rest).2) := by
  rw [readDigits, List.takeWhile_append_of_pos all, List.dropWhile_append_of_pos all]
  rfl

theorem readDigits_of_stop {text : Text}
    (stop : ∀ character ∈ text.head?, character.isDigit = false) :
    readDigits text = ([], text) := by
  have rest_eq : (readDigits text).2 = text := Text.dropWhile_eq_self stop
  have all := append_readDigits text
  rw [rest_eq, List.append_left_eq_self] at all
  exact Prod.ext all rest_eq

theorem suffix_readDigits (text : Text) : (readDigits text).2 <:+ text :=
  List.dropWhile_suffix _

/-- The sign and the digits at the start of a text, and the text after them. -/
def readSigned (text : Text) : (Bool × Text) × Text :=
  (((readSign text).1, (readDigits (readSign text).2).1), (readDigits (readSign text).2).2)

theorem exists_sign_of_readSigned {text digits rest : Text} {negative : Bool}
    (read : readSigned text = ((negative, digits), rest)) :
    ∃ sign, IsSign sign negative ∧ (∀ character ∈ digits, character.isDigit = true) ∧
      text = sign ++ digits ++ rest := by
  cases read
  obtain ⟨sign, isSign, split⟩ := exists_sign text
  refine ⟨sign, isSign, fun _ => isDigit_of_mem_readDigits, ?_⟩
  rwa [List.append_assoc, append_readDigits]

/-- Behind a sign, digits are read to the last of them. -/
theorem readSigned_append {sign digits : Text} {negative : Bool} (isSign : IsSign sign negative)
    (isDigits : IsDigits digits) (rest : Text) :
    readSigned (sign ++ digits ++ rest) =
      ((negative, digits ++ (readDigits rest).1), (readDigits rest).2) := by
  have sign_eq : readSign (sign ++ (digits ++ rest)) = (negative, digits ++ rest) := by
    apply readSign_append isSign
    intro character first
    rw [List.head?_append_of_ne_nil _ isDigits.nonempty] at first
    exact not_sign_of_isDigit (isDigits.digits character (List.mem_of_mem_head? first))
  rw [readSigned, List.append_assoc, sign_eq, readDigits_append isDigits.digits]

/-- The text starts with a digit, or with a sign and a digit. -/
def LeadsInteger (text : Text) : Prop :=
  ∃ sign negative digit rest, IsSign sign negative ∧ digit.isDigit = true ∧
    text = sign ++ [digit] ++ rest

theorem leadsInteger_iff {text digits rest : Text} {negative : Bool}
    (read : readSigned text = ((negative, digits), rest)) : LeadsInteger text ↔ digits ≠ [] := by
  constructor
  · rintro ⟨sign, negative, digit, others, isSign, isDigit, rfl⟩
    have isDigits : IsDigits [digit] := ⟨List.cons_ne_nil _ _, by simpa using isDigit⟩
    rw [readSigned_append isSign isDigits] at read
    cases read
    exact List.cons_ne_nil _ _
  · intro nonempty
    obtain ⟨sign, isSign, all, rfl⟩ := exists_sign_of_readSigned read
    obtain ⟨digit, others, rfl⟩ := List.exists_cons_of_ne_nil nonempty
    exact ⟨sign, negative, digit, others ++ rest, isSign, all digit List.mem_cons_self, by simp⟩

theorem leadingInteger_eq {text digits rest : Text} {negative : Bool}
    (read : readSigned text = ((negative, digits), rest)) :
    leadingInteger text = signedValue negative digits := by
  cases read
  rfl

theorem leadingInteger_append {text rest : Text} {integer : Int}
    (isSigned : IsSignedDigits text integer)
    (stop : ∀ character ∈ rest.head?, character.isDigit = false) :
    leadingInteger (text ++ rest) = integer := by
  obtain ⟨isSign, isDigits⟩ := isSigned
  rw [leadingInteger_eq (readSigned_append isSign isDigits rest), readDigits_of_stop stop,
    List.append_nil]

theorem leadingInteger_of_not_leads {text : Text} (plain : ¬ LeadsInteger text) :
    leadingInteger text = 0 := by
  rcases read : readSigned text with ⟨⟨negative, digits⟩, rest⟩
  rw [leadsInteger_iff read, not_not] at plain
  rw [leadingInteger_eq read, plain]
  cases negative <;> rfl

/-- The integer that a text starts with is denoted by its longest start of signed digits. -/
theorem longestStart_leadingInteger {text : Text} (leads : LeadsInteger text) :
    ∃ start, LongestStart IsSignedDigits text start (leadingInteger text) := by
  rcases read : readSigned text with ⟨⟨negative, digits⟩, rest⟩
  rw [leadsInteger_iff read] at leads
  rw [leadingInteger_eq read]
  obtain ⟨sign, isSign, all, rfl⟩ := exists_sign_of_readSigned read
  refine ⟨sign ++ digits, .of_rest (.signed isSign ⟨leads, all⟩) ?_⟩
  rintro other otherInteger more same ⟨otherSign, otherDigits⟩
  rw [same, readSigned_append otherSign otherDigits] at read
  cases read
  exact suffix_readDigits more

end QueryTemplate.Decimal
