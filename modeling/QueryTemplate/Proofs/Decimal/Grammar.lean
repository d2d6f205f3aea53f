import QueryTemplate.Proofs.Decimal.Notation

/-! # The grammar of numerals

Digits behind an optional sign denote an integer. A numeral is digits with an optional point among
or around them, behind an optional sign and before an optional exponent. It denotes a coefficient
and a power of ten, and ends in a digit or in a point behind one.
-/
namespace QueryTemplate.Decimal

/-- An optional sign, and whether it is a minus. -/
inductive IsSign : Text → Bool → Prop
  | absent : IsSign [] false
  | plus : IsSign ['+'] false
  | minus : IsSign ['-'] true

def signedValue (negative : Bool) (digits : Text) : Int :=
  if negative then -(value digits : Int) else value digits

/-- `[+-]? digits`, leading zeros included, and the integer it denotes. -/
inductive IsSignedDigits : Text → Int → Prop
  | signed {sign digits : Text} {negative : Bool} (isSign : IsSign sign negative)
      (isDigits : IsDigits digits) : IsSignedDigits (sign ++ digits) (signedValue negative digits)

/-- `digits ['.' digit*] | '.' digits`, and the digits before and after the point. -/
inductive IsMantissa : Text → Text → Text → Prop
  | whole {digits : Text} (isDigits : IsDigits digits) : IsMantissa digits digits []
  | pointed {digits fraction : Text} (isDigits : IsDigits digits)
      (places : ∀ character ∈ fraction, character.isDigit = true) :
      IsMantissa (digits ++ '.' :: fraction) digits fraction
  | fraction {digits : Text} (isDigits : IsDigits digits) : IsMantissa ('.' :: digits) [] digits

/-- `[(e|E) [+-]? digits]`, and the power of ten it denotes. -/
inductive IsExponent : Text → Int → Prop
  | absent : IsExponent [] 0
  | marked {mark : Char} {text : Text} {power : Int} (isMark : mark = 'e' ∨ mark = 'E')
      (isSigned : IsSignedDigits text power) : IsExponent (mark :: text) power

/-- `[+-]? (digits ['.' digit*] | '.' digits) [(e|E) [+-]? digits]`, and what it denotes. -/
inductive IsNumeral : Text → Numeral → Prop
  | numeral {sign mantissa whole fraction exponent : Text} {negative : Bool} {power : Int}
      (isSign : IsSign sign negative) (isMantissa : IsMantissa mantissa whole fraction)
      (isExponent : IsExponent exponent power) :
      IsNumeral (sign ++ (mantissa ++ exponent))
        ⟨negative, value (whole ++ fraction), power - fraction.length⟩

theorem IsInteger.isSignedDigits {text : Text} {integer : Int} (shape : IsInteger text integer) :
    IsSignedDigits text integer := by
  cases shape with
  | natural natural => exact .signed .absent natural.toIsDigits
  | negative natural nonzero => exact .signed .minus natural.toIsDigits

theorem IsSignedDigits.isNumeral {text : Text} {integer : Int}
    (shape : IsSignedDigits text integer) : ∃ numeral, IsNumeral text numeral := by
  obtain ⟨isSign, isDigits⟩ := shape
  have isNumeral := IsNumeral.numeral isSign (.whole isDigits) .absent
  rw [List.append_nil] at isNumeral
  exact ⟨_, isNumeral⟩

/-- The text ends in a digit, or in a digit with a point behind it. -/
def EndsInDigit (text : Text) : Prop :=
  ∃ front digit, digit.isDigit = true ∧ (text = front ++ [digit] ∨ text = front ++ [digit, '.'])

theorem EndsInDigit.append (first : Text) {second : Text} (ends : EndsInDigit second) :
    EndsInDigit (first ++ second) := by
  obtain ⟨front, digit, isDigit, rfl | rfl⟩ := ends
  · exact ⟨first ++ front, digit, isDigit, .inl (List.append_assoc ..).symm⟩
  · exact ⟨first ++ front, digit, isDigit, .inr (List.append_assoc ..).symm⟩

theorem IsDigits.exists_last {digits : Text} (isDigits : IsDigits digits) :
    ∃ front digit, digit.isDigit = true ∧ digits = front ++ [digit] := by
  have split := List.dropLast_append_getLast isDigits.nonempty
  exact ⟨_, _, isDigits.digits _ (List.getLast_mem isDigits.nonempty), split.symm⟩

theorem IsDigits.endsInDigit {digits : Text} (isDigits : IsDigits digits) : EndsInDigit digits := by
  obtain ⟨front, digit, isDigit, split⟩ := isDigits.exists_last
  exact ⟨front, digit, isDigit, .inl split⟩

theorem IsMantissa.endsInDigit {text whole fraction : Text}
    (isMantissa : IsMantissa text whole fraction) : EndsInDigit text := by
  cases isMantissa with
  | whole isDigits => exact isDigits.endsInDigit
  | pointed isDigits places =>
      cases fraction with
      | nil =>
          obtain ⟨front, digit, isDigit, rfl⟩ := isDigits.exists_last
          exact ⟨front, digit, isDigit, .inr (by simp)⟩
      | cons first rest =>
          have isFraction : IsDigits (first :: rest) := ⟨List.cons_ne_nil _ _, places⟩
          exact (isFraction.endsInDigit.append ['.']).append whole
  | fraction isDigits => exact isDigits.endsInDigit.append ['.']

theorem IsNumeral.endsInDigit {text : Text} {numeral : Numeral}
    (isNumeral : IsNumeral text numeral) : EndsInDigit text := by
  obtain ⟨isSign, isMantissa, isExponent⟩ := isNumeral
  apply EndsInDigit.append
  cases isExponent with
  | absent =>
      rw [List.append_nil]
      exact isMantissa.endsInDigit
  | marked isMark isSigned =>
      obtain ⟨isSign, isDigits⟩ := isSigned
      exact ((isDigits.endsInDigit.append _).append [_]).append _

/-- A digit, a sign, a point or the mark of an exponent. -/
def IsNumeralCharacter (character : Char) : Prop :=
  character.isDigit = true ∨ character ∈ ['+', '-', '.', 'e', 'E']

theorem IsSign.characters {sign : Text} {negative : Bool} (isSign : IsSign sign negative) :
    ∀ character ∈ sign, IsNumeralCharacter character := by
  cases isSign <;> simp [IsNumeralCharacter]

theorem IsSignedDigits.characters {text : Text} {integer : Int}
    (isSigned : IsSignedDigits text integer) :
    ∀ character ∈ text, IsNumeralCharacter character := by
  obtain ⟨isSign, isDigits⟩ := isSigned
  rw [List.forall_mem_append]
  exact ⟨isSign.characters, fun character member => .inl (isDigits.digits character member)⟩

theorem IsMantissa.characters {text whole fraction : Text}
    (isMantissa : IsMantissa text whole fraction) :
    ∀ character ∈ text, IsNumeralCharacter character := by
  have point : IsNumeralCharacter '.' := .inr (by simp)
  cases isMantissa with
  | whole isDigits => exact fun character member => .inl (isDigits.digits character member)
  | pointed isDigits places =>
      rw [List.forall_mem_append, List.forall_mem_cons]
      exact ⟨fun character member => .inl (isDigits.digits character member), point,
        fun character member => .inl (places character member)⟩
  | fraction isDigits =>
      rw [List.forall_mem_cons]
      exact ⟨point, fun character member => .inl (isDigits.digits character member)⟩

theorem IsNumeral.characters {text : Text} {numeral : Numeral}
    (isNumeral : IsNumeral text numeral) :
    ∀ character ∈ text, IsNumeralCharacter character := by
  obtain ⟨isSign, isMantissa, isExponent⟩ := isNumeral
  rw [List.forall_mem_append, List.forall_mem_append]
  refine ⟨isSign.characters, isMantissa.characters, ?_⟩
  cases isExponent with
  | absent => simp
  | marked isMark isSigned =>
      rw [List.forall_mem_cons]
      exact ⟨.inr (by rcases isMark with rfl | rfl <;> simp), isSigned.characters⟩

end QueryTemplate.Decimal
