import QueryTemplate.Proofs.Decimal.Reading

/-! # Reading numerals

What is read at the start of a text is the longest start that is in the grammar, with what it
denotes. Nothing is read exactly when no start of the text is in the grammar. A text that is in the
grammar as a whole is read to its end, and has one reading only.
-/
namespace QueryTemplate.Decimal

open Text (LongestStart)

/-- The digits around an optional point at the start of a text, and the text after them. -/
def readMantissa (text : Text) : Text × Text × Text :=
  ((readDigits text).1, readFraction (readDigits text).2)

theorem suffix_readFraction (text : Text) : (readFraction text).2 <:+ text := by
  unfold readFraction
  split
  case h_1 rest => exact (suffix_readDigits rest).trans (List.suffix_cons '.' rest)
  case h_2 => exact List.suffix_rfl

theorem readFraction_of_stop {text : Text} (stop : ∀ character ∈ text.head?, character ≠ '.') :
    readFraction text = ([], text) := by
  unfold readFraction
  split
  case h_1 => exact absurd rfl (stop '.' rfl)
  case h_2 => rfl

theorem readMantissa_append {digits : Text} (all : ∀ character ∈ digits, character.isDigit = true)
    (rest : Text) :
    readMantissa (digits ++ rest) =
      (digits ++ (readDigits rest).1, readFraction (readDigits rest).2) := by
  rw [readMantissa, readDigits_append all]

theorem readMantissa_point {digits fraction : Text}
    (all : ∀ character ∈ digits, character.isDigit = true)
    (places : ∀ character ∈ fraction, character.isDigit = true) (rest : Text) :
    readMantissa (digits ++ '.' :: fraction ++ rest) =
      (digits, fraction ++ (readDigits rest).1, (readDigits rest).2) := by
  have point : readDigits ('.' :: (fraction ++ rest)) = ([], '.' :: (fraction ++ rest)) :=
    readDigits_of_stop (by simp)
  rw [List.append_assoc, List.cons_append, readMantissa_append all, point, readFraction,
    readDigits_append places, List.append_nil]

theorem exists_mantissa {text whole fraction rest : Text}
    (read : readMantissa text = (whole, fraction, rest)) (found : ¬ (whole = [] ∧ fraction = [])) :
    ∃ mantissa, IsMantissa mantissa whole fraction ∧ text = mantissa ++ rest := by
  obtain ⟨whole_eq, fraction_eq⟩ := Prod.mk.inj read
  have split := append_readDigits text
  have digits : ∀ character ∈ (readDigits text).1, character.isDigit = true :=
    fun _ => isDigit_of_mem_readDigits
  rw [whole_eq] at split digits
  unfold readFraction at fraction_eq
  split at fraction_eq
  case h_1 afterPoint point =>
    obtain ⟨places, rfl⟩ : (∀ character ∈ fraction, character.isDigit = true) ∧
        fraction ++ rest = afterPoint := by
      cases fraction_eq
      exact ⟨fun _ => isDigit_of_mem_readDigits, append_readDigits afterPoint⟩
    rw [point] at split
    by_cases nonempty : whole = []
    · subst nonempty
      exact ⟨_, .fraction ⟨fun empty => found ⟨rfl, empty⟩, places⟩, split.symm⟩
    · exact ⟨_, .pointed ⟨nonempty, digits⟩ places, by rw [← split]; simp⟩
  case h_2 =>
    obtain ⟨rfl, rfl⟩ := Prod.mk.inj fraction_eq
    exact ⟨_, .whole ⟨fun empty => found ⟨empty, rfl⟩, digits⟩, split.symm⟩

/-- A mantissa is digits, or digits around a point and not none on both sides. -/
theorem IsMantissa.eq_or {mantissa whole fraction : Text}
    (isMantissa : IsMantissa mantissa whole fraction) :
    (mantissa = whole ∧ fraction = [] ∧ IsDigits whole) ∨
      mantissa = whole ++ '.' :: fraction ∧ (∀ character ∈ whole, character.isDigit = true) ∧
        (∀ character ∈ fraction, character.isDigit = true) ∧ ¬ (whole = [] ∧ fraction = []) := by
  cases isMantissa with
  | whole isDigits => exact .inl ⟨rfl, rfl, isDigits⟩
  | pointed isDigits places =>
      exact .inr ⟨rfl, isDigits.digits, places, fun empty => isDigits.nonempty empty.1⟩
  | fraction isDigits =>
      exact .inr ⟨rfl, by simp, isDigits.digits, fun empty => isDigits.nonempty empty.2⟩

theorem IsMantissa.nonempty {mantissa whole fraction : Text}
    (isMantissa : IsMantissa mantissa whole fraction) : ¬ (whole = [] ∧ fraction = []) := by
  rcases isMantissa.eq_or with ⟨rfl, rfl, isDigits⟩ | ⟨-, -, -, nonempty⟩
  · exact fun empty => isDigits.nonempty empty.1
  · exact nonempty

theorem IsMantissa.readMantissa_of_stop {mantissa whole fraction rest : Text}
    (isMantissa : IsMantissa mantissa whole fraction)
    (stop : ∀ character ∈ rest.head?, character.isDigit = false ∧ character ≠ '.') :
    readMantissa (mantissa ++ rest) = (whole, fraction, rest) := by
  have noDigit := readDigits_of_stop fun character first => (stop character first).1
  have noPoint := readFraction_of_stop fun character first => (stop character first).2
  rcases isMantissa.eq_or with ⟨rfl, rfl, isDigits⟩ | ⟨rfl, all, places, -⟩
  · rw [readMantissa_append isDigits.digits, noDigit, noPoint, List.append_nil]
  · rw [readMantissa_point all places, noDigit, List.append_nil]

/-- More text behind a mantissa may belong to it, and what belongs to it is read. -/
theorem IsMantissa.exists_readMantissa {mantissa whole fraction : Text}
    (isMantissa : IsMantissa mantissa whole fraction) (rest : Text) :
    ∃ digits places remaining, readMantissa (mantissa ++ rest) = (digits, places, remaining) ∧
      ¬ (digits = [] ∧ places = []) ∧ remaining <:+ rest := by
  rcases isMantissa.eq_or with ⟨rfl, rfl, isDigits⟩ | ⟨rfl, all, places, nonempty⟩
  · refine ⟨_, _, _, readMantissa_append isDigits.digits rest, ?_,
      (suffix_readFraction _).trans (suffix_readDigits rest)⟩
    simp [isDigits.nonempty]
  · refine ⟨_, _, _, readMantissa_point all places rest, ?_, suffix_readDigits rest⟩
    rw [List.append_eq_nil_iff]
    exact fun empty => nonempty ⟨empty.1, empty.2.1⟩

/-- The start of an exponent does not belong to a mantissa. -/
theorem IsExponent.stop {exponent : Text} {power : Int} (isExponent : IsExponent exponent power) :
    ∀ character ∈ exponent.head?, character.isDigit = false ∧ character ≠ '.' := by
  cases isExponent with
  | absent => simp
  | marked isMark isSigned => rcases isMark with rfl | rfl <;> simp

theorem readExponent_marked {mark : Char} (isMark : mark = 'e' ∨ mark = 'E')
    {body digits rest : Text} {negative : Bool}
    (read : readSigned body = ((negative, digits), rest)) :
    readExponent (mark :: body) =
      if digits = [] then (none, mark :: body) else (some (signedValue negative digits), rest) := by
  cases read
  rw [readExponent, if_pos isMark]
  dsimp only
  cases readDigits_eq : readDigits (readSign body).2 with
  | mk digits rest => cases digits <;> rfl

theorem readExponent_of_unmarked {text : Text}
    (unmarked : ∀ character ∈ text.head?, ¬ (character = 'e' ∨ character = 'E')) :
    readExponent text = (none, text) := by
  cases text with
  | nil => rfl
  | cons first body => exact if_neg (unmarked first rfl)

theorem exists_exponent {text rest : Text} {exponent? : Option Int}
    (read : readExponent text = (exponent?, rest)) :
    ∃ exponent, IsExponent exponent (exponent?.getD 0) ∧ text = exponent ++ rest := by
  by_cases marked : ∃ mark body, text = mark :: body ∧ (mark = 'e' ∨ mark = 'E')
  · obtain ⟨mark, body, rfl, isMark⟩ := marked
    rcases signed : readSigned body with ⟨⟨negative, digits⟩, remaining⟩
    rw [readExponent_marked isMark signed] at read
    split at read
    case isTrue =>
      cases read
      exact ⟨[], .absent, rfl⟩
    case isFalse nonempty =>
      cases read
      obtain ⟨sign, isSign, all, rfl⟩ := exists_sign_of_readSigned signed
      exact ⟨_, .marked isMark (.signed isSign ⟨nonempty, all⟩), rfl⟩
  · rw [readExponent_of_unmarked] at read
    · cases read
      exact ⟨[], .absent, rfl⟩
    · intro first head isMark
      obtain ⟨body, rfl⟩ := List.head?_eq_some_iff.mp head
      exact marked ⟨first, body, rfl, isMark⟩

theorem suffix_readExponent (text : Text) : (readExponent text).2 <:+ text := by
  have read : readExponent text = ((readExponent text).1, (readExponent text).2) := rfl
  obtain ⟨exponent, -, split⟩ := exists_exponent read
  exact ⟨exponent, split.symm⟩

/-- An exponent is read, and digits behind it that belong to it. -/
theorem IsExponent.suffix_readExponent {exponent : Text} {power : Int}
    (isExponent : IsExponent exponent power) (rest : Text) :
    (readExponent (exponent ++ rest)).2 <:+ rest := by
  cases isExponent with
  | absent => exact Decimal.suffix_readExponent rest
  | marked isMark isSigned =>
      obtain ⟨isSign, isDigits⟩ := isSigned
      rw [List.cons_append, readExponent_marked isMark (readSigned_append isSign isDigits rest),
        if_neg (by simp [isDigits.nonempty])]
      exact suffix_readDigits rest

theorem IsExponent.readExponent_eq {exponent : Text} {power : Int}
    (isExponent : IsExponent exponent power) :
    ∃ exponent?, readExponent exponent = (exponent?, []) ∧ exponent?.getD 0 = power := by
  cases isExponent with
  | absent => exact ⟨none, rfl, rfl⟩
  | marked isMark isSigned =>
      obtain ⟨isSign, isDigits⟩ := isSigned
      have signed := readSigned_append isSign isDigits []
      rw [List.append_nil, readDigits_of_stop (by simp), List.append_nil] at signed
      rw [readExponent_marked isMark signed, if_neg isDigits.nonempty]
      exact ⟨_, rfl, rfl⟩

namespace Numeral

theorem read?_eq {text unsigned whole fraction afterMantissa rest : Text} {negative : Bool}
    {exponent? : Option Int} (sign : readSign text = (negative, unsigned))
    (mantissa : readMantissa unsigned = (whole, fraction, afterMantissa))
    (exponent : readExponent afterMantissa = (exponent?, rest)) :
    read? text =
      if whole = [] ∧ fraction = [] then none
      else
        some (⟨negative, value (whole ++ fraction), exponent?.getD 0 - fraction.length⟩, rest) := by
  obtain ⟨rfl, fraction_eq⟩ := Prod.mk.inj mantissa
  simp only [read?, sign, fraction_eq, exponent]

/-- What is read is in the grammar, and denotes the numeral that is given for it. -/
theorem exists_isNumeral {text rest : Text} {numeral : Numeral}
    (read : read? text = some (numeral, rest)) :
    ∃ start, IsNumeral start numeral ∧ text = start ++ rest := by
  rcases sign : readSign text with ⟨negative, unsigned⟩
  rcases mantissa : readMantissa unsigned with ⟨whole, fraction, afterMantissa⟩
  rcases exponent : readExponent afterMantissa with ⟨exponent?, remaining⟩
  rw [read?_eq sign mantissa exponent] at read
  split at read
  case isTrue => cases read
  case isFalse found =>
    cases read
    obtain ⟨signText, isSign, split⟩ := exists_sign text
    rw [sign] at isSign split
    obtain ⟨mantissaText, isMantissa, rfl⟩ := exists_mantissa mantissa found
    obtain ⟨exponentText, isExponent, rfl⟩ := exists_exponent exponent
    refine ⟨_, .numeral isSign isMantissa isExponent, ?_⟩
    rw [split]
    simp only [List.append_assoc]

end Numeral

/-- A sign before a mantissa is read by itself. -/
theorem IsMantissa.readSign_append {mantissa whole fraction sign : Text} {negative : Bool}
    (isMantissa : IsMantissa mantissa whole fraction) (isSign : IsSign sign negative)
    (rest : Text) :
    readSign (sign ++ (mantissa ++ rest)) = (negative, mantissa ++ rest) := by
  apply Decimal.readSign_append isSign
  intro character first
  rcases isMantissa.eq_or with ⟨rfl, -, isDigits⟩ | ⟨rfl, all, -, -⟩
  · rw [List.head?_append_of_ne_nil _ isDigits.nonempty] at first
    exact not_sign_of_isDigit (isDigits.digits character (List.mem_of_mem_head? first))
  · cases whole with
    | nil =>
        cases first
        decide
    | cons digit others =>
        obtain rfl : digit = character := Option.some.inj first
        exact not_sign_of_isDigit (all digit List.mem_cons_self)

namespace IsNumeral

/-- Whatever stands behind a numeral, no less than the numeral is read. -/
theorem exists_read?_append {text : Text} {numeral : Numeral} (isNumeral : IsNumeral text numeral)
    (rest : Text) :
    ∃ longer remaining, Numeral.read? (text ++ rest) = some (longer, remaining) ∧
      remaining <:+ rest := by
  cases isNumeral with
  | @numeral sign mantissa whole fraction exponent negative power isSign isMantissa isExponent =>
      have sign_eq := isMantissa.readSign_append isSign (exponent ++ rest)
      rw [List.append_assoc, List.append_assoc]
      by_cases empty : exponent = []
      · subst empty
        obtain ⟨digits, places, remaining, mantissa_eq, found, left⟩ :=
          isMantissa.exists_readMantissa rest
        have read := Numeral.read?_eq sign_eq mantissa_eq rfl
        rw [if_neg found] at read
        exact ⟨_, _, read, (suffix_readExponent remaining).trans left⟩
      · have stop : ∀ character ∈ (exponent ++ rest).head?,
            character.isDigit = false ∧ character ≠ '.' := by
          rw [List.head?_append_of_ne_nil _ empty]
          exact isExponent.stop
        have read := Numeral.read?_eq sign_eq (isMantissa.readMantissa_of_stop stop) rfl
        rw [if_neg isMantissa.nonempty] at read
        exact ⟨_, _, read, isExponent.suffix_readExponent rest⟩

/-- A text that is a numeral as a whole is read to its end. -/
theorem read?_eq {text : Text} {numeral : Numeral} (isNumeral : IsNumeral text numeral) :
    Numeral.read? text = some (numeral, []) := by
  cases isNumeral with
  | @numeral sign mantissa whole fraction exponent negative power isSign isMantissa isExponent =>
      have mantissa_eq := isMantissa.readMantissa_of_stop isExponent.stop
      obtain ⟨exponent?, exponent_eq, rfl⟩ := isExponent.readExponent_eq
      rw [Numeral.read?_eq (isMantissa.readSign_append isSign exponent) mantissa_eq exponent_eq,
        if_neg isMantissa.nonempty]

end IsNumeral

namespace Numeral

/-- Nothing is read when no start of the text is a numeral. -/
theorem read?_eq_none_iff (text : Text) :
    read? text = none ↔ ∀ start numeral, start <+: text → ¬ IsNumeral start numeral := by
  constructor
  · rintro none start numeral ⟨rest, rfl⟩ isNumeral
    obtain ⟨longer, remaining, read, -⟩ := isNumeral.exists_read?_append rest
    rw [none] at read
    cases read
  · intro plain
    by_contra found
    obtain ⟨⟨numeral, rest⟩, read⟩ := Option.ne_none_iff_exists'.mp found
    obtain ⟨start, isNumeral, rfl⟩ := exists_isNumeral read
    exact plain start numeral (List.prefix_append start rest) isNumeral

/-- What is read is the longest start of the text that is a numeral. -/
theorem longestStart_of_read? {text rest : Text} {numeral : Numeral}
    (read : read? text = some (numeral, rest)) :
    ∃ start, text = start ++ rest ∧ LongestStart IsNumeral text start numeral := by
  obtain ⟨start, isNumeral, rfl⟩ := exists_isNumeral read
  refine ⟨start, rfl, .of_rest isNumeral ?_⟩
  intro other otherNumeral more same isOther
  obtain ⟨longer, remaining, readOther, left⟩ := isOther.exists_read?_append more
  rw [← same, read] at readOther
  cases readOther
  exact left

theorem ofText?_eq_some_iff {text : Text} {numeral : Numeral} :
    ofText? text = some numeral ↔ IsNumeral text numeral := by
  constructor
  · intro whole
    unfold ofText? at whole
    split at whole
    case h_1 found read =>
      cases whole
      obtain ⟨start, isNumeral, rfl⟩ := exists_isNumeral read
      rwa [List.append_nil]
    case h_2 => cases whole
  · intro isNumeral
    rw [ofText?, isNumeral.read?_eq]

end Numeral
end QueryTemplate.Decimal
