import QueryTemplate.Proofs.Quoting.Closing

/-! # Reading quoted text

A database reads quoted text up to the quote that closes it. In a string of the MySQL dialect a
backslash takes the next character; anywhere else a doubled quote stands for one. Reading starts
after the opening quote, and gives the text that was quoted and what follows the closing quote. What
an escaper of the library wrote is read as the raw text.
-/
namespace QueryTemplate

namespace Dialect

def readCons (character : Char) (read : Text × Text) : Text × Text :=
  (character :: read.1, read.2)

/-- Reads up to a single quote, where a backslash takes the next character. -/
def readBackslashed : Text → Option (Text × Text)
  | [] => none
  | '\'' :: rest => some ([], rest)
  | '\\' :: letter :: rest => (readBackslashed rest).map (readCons (unescape letter))
  | character :: rest => (readBackslashed rest).map (readCons character)

/-- Reads up to a quote, where two quotes stand for one. -/
def readDoubled (quote : Char) : Text → Option (Text × Text)
  | [] => none
  | character :: rest =>
      if character = quote then
        match rest with
        | [] => some ([], [])
        | next :: after =>
            if next = quote then (readDoubled quote after).map (readCons quote)
            else some ([], rest)
      else (readDoubled quote rest).map (readCons character)

def readString : Dialect → Text → Option (Text × Text)
  | .mysql => readBackslashed
  | .standard => readDoubled '\''

theorem readBackslashed_plain {character : Char} (not_quote : character ≠ '\'')
    (not_backslash : character ≠ '\\') (rest : Text) :
    readBackslashed (character :: rest) =
      (readBackslashed rest).map (readCons character) := by
  rw [readBackslashed]
  · exact not_quote
  · rintro letter after rfl
    exact absurd rfl not_backslash

theorem readDoubled_quote (quote : Char) {rest : Text} (ended : rest.head? ≠ some quote) :
    readDoubled quote (quote :: rest) = some ([], rest) := by
  cases rest with
  | nil => simp [readDoubled]
  | cons next after =>
      have different : next ≠ quote := fun same => ended (congrArg some same)
      simp [readDoubled, different]

theorem readDoubled_quote_quote (quote : Char) (rest : Text) :
    readDoubled quote (quote :: quote :: rest) =
      (readDoubled quote rest).map (readCons quote) := by
  simp [readDoubled]

theorem readDoubled_plain {quote character : Char} (different : character ≠ quote) (rest : Text) :
    readDoubled quote (character :: rest) = (readDoubled quote rest).map (readCons character) := by
  rw [readDoubled.eq_def]
  exact if_neg different

theorem readBackslashed_eq (text : Text) :
    readBackslashed text = (closingBackslashed text).map fun position =>
      (unescapeAll (text.take position), text.drop (position + 1)) := by
  induction text using readBackslashed.induct with
  | case1 => rfl
  | case2 after => rfl
  | case3 letter after induction =>
      rw [readBackslashed, closingBackslashed, induction, Option.map_map, Option.map_map]
      congr 1
  | case4 character after not_quote not_escape induction =>
      by_cases backslash : character = '\\'
      · cases after with
        | nil =>
            subst backslash
            rfl
        | cons letter rest => exact (not_escape letter rest backslash rfl).elim
      · rw [readBackslashed_plain not_quote backslash,
          closingBackslashed_plain not_quote backslash, induction, Option.map_map, Option.map_map]
        congr 1
        funext position
        simp [readCons, unescapeAll_plain backslash]

theorem readDoubled_eq (quote : Char) (text : Text) :
    readDoubled quote text = (closingDoubled quote text).map fun position =>
      (undouble quote (text.take position), text.drop (position + 1)) := by
  induction text using readDoubled.induct quote with
  | case1 => rfl
  | case2 =>
      rw [readDoubled_quote quote (by simp), closingDoubled_quote quote (by simp)]
      rfl
  | case3 after induction =>
      rw [readDoubled_quote_quote, closingDoubled_quote_quote, induction, Option.map_map,
        Option.map_map]
      congr 1
      funext position
      simp [readCons, undouble]
  | case4 next after different =>
      have ended : (next :: after).head? ≠ some quote := by simpa using different
      rw [readDoubled_quote quote ended, closingDoubled_quote quote ended]
      rfl
  | case5 character after different induction =>
      rw [readDoubled_plain different, closingDoubled_plain different, induction, Option.map_map,
        Option.map_map]
      congr 1
      funext position
      simp [readCons, undouble_plain different]

theorem readString_eq (dialect : Dialect) (text : Text) :
    dialect.readString text = (dialect.closing text).map fun position =>
      (dialect.decode (text.take position), text.drop (position + 1)) := by
  cases dialect with
  | mysql => exact readBackslashed_eq text
  | standard => exact readDoubled_eq '\'' text

/-- Text with doubled quotes is read up to the quote after it, as the text before doubling. -/
theorem readDoubled_doubleQuotes (quote : Char) (text : Text) {rest : Text}
    (ended : rest.head? ≠ some quote) :
    readDoubled quote (Fragment.doubleQuotes quote text ++ quote :: rest) = some (text, rest) := by
  have closed := (closingDoubled_doubleQuotes_quote_iff quote text rest).mpr ended
  rw [readDoubled_eq, closed, Option.map_some, List.take_left, undouble_doubleQuotes]
  simp

/-- A string literal is read up to its closing quote, as the raw text. In the standard dialect no
single quote may follow. -/
theorem readString_escape (dialect : Dialect) (raw : Text) {rest : Text}
    (ended : dialect = .standard → rest.head? ≠ some '\'') :
    dialect.readString (dialect.escaper raw ++ '\'' :: rest) = some (raw, rest) := by
  have closed := (dialect.closing_escape_iff raw rest).mpr ended
  rw [readString_eq, closed, Option.map_some, List.take_left, decode_escape]
  simp

example : Dialect.standard.readString ['a', '\'', '\'', '\'', ','] =
    some (['a', '\''], [',']) := by decide

theorem length_lt_of_map_drop {closing : Text → Option Nat} (nothing : closing [] = none)
    {decode : Text → Text} {text value rest : Text}
    (read : (closing text).map (fun position => (decode (text.take position),
      text.drop (position + 1))) = some (value, rest)) :
    rest.length < text.length := by
  cases text with
  | nil => simp [nothing] at read
  | cons character others =>
      obtain ⟨position, -, same⟩ := Option.map_eq_some_iff.mp read
      rw [← (Prod.mk.inj same).2, List.length_drop, List.length_cons]
      omega

theorem length_lt_of_readDoubled {quote : Char} {text value rest : Text}
    (read : readDoubled quote text = some (value, rest)) : rest.length < text.length := by
  rw [readDoubled_eq] at read
  exact length_lt_of_map_drop rfl read

theorem length_lt_of_readString {dialect : Dialect} {text value rest : Text}
    (read : dialect.readString text = some (value, rest)) : rest.length < text.length := by
  rw [readString_eq] at read
  exact length_lt_of_map_drop (by cases dialect <;> rfl) read

end Dialect
end QueryTemplate
